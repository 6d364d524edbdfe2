import WorkWithMe.Lib.Limiter
import WorkWithMe.Lib.Lists
import WorkWithMe.Server.Logs

/-!
# The server: notifications

`sendNotification` logs a notification, unless there have been too many with its title within the
last minute, and `getRecentNotifications` reads the latest ones from the log.

* `shouldRateLimit` is the limit.  Under one title it is a limiter with a window of a minute, which
  no other title disturbs (`limiter_askAll`, `answers_askAll`); `rateLimit` is what follows for all
  calls.
* `getRecentNotifications_eq_iff` says when the latest notifications are returned.  The limit is
  taken before the lines that are no notifications are left out, so these count.
* `content_sendAll` and `notifications_of_logText` are for a log that only `sendNotification` has
  written to: every line is a notification, and it is read as it was sent.
-/

set_option autoImplicit false

namespace WorkWithMe.Server.Notifications

open Lines Logs

/-! ## The limit -/

/-- `MAX_NOTIFICATIONS_PER_MINUTE`. -/
def maxNotificationsPerMinute : ℕ := 10

/-- `MINUTE_IN_SECS`. -/
def minuteInSecs : ℤ := 60

/-- `NOTIFICATION_RATE_LIMITER`: the timestamps under each title.  Where there is no entry there are
none. -/
abbrev RateLimiter := String → List ℤ

/-- `should_rate_limit`. -/
def shouldRateLimit (title : String) (now : ℤ) (limiter : RateLimiter) : Bool × RateLimiter :=
  let timestamps := (limiter title).filter fun ts ↦ now - ts < minuteInSecs
  if maxNotificationsPerMinute ≤ timestamps.length then
    (true, Function.update limiter title timestamps)
  else (false, Function.update limiter title (timestamps ++ [now]))

/-- The calls of `should_rate_limit` since the server was started. -/
structure Asked where
  /-- The title and the clock of each call, and whether it is limited. -/
  answers : List ((String × ℤ) × Bool)
  /-- The timestamps. -/
  limiter : RateLimiter

/-- One more call. -/
def Asked.ask (s : Asked) (c : String × ℤ) : Asked :=
  ⟨s.answers ++ [(c, (shouldRateLimit c.1 c.2 s.limiter).1)],
    (shouldRateLimit c.1 c.2 s.limiter).2⟩

/-- Calls with some titles, at some times. -/
def askAll (calls : List (String × ℤ)) : Asked := calls.foldl Asked.ask ⟨[], fun _ ↦ []⟩

/-- The times of the calls with a title. -/
def timesOf (title : String) (calls : List (String × ℤ)) : List ℤ :=
  (calls.filter fun c ↦ c.1 = title).map Prod.snd

/-- The times of the calls with a title that were not limited. -/
def acceptedOf (title : String) (answers : List ((String × ℤ) × Bool)) : List ℤ :=
  (answers.filter fun a ↦ a.1.1 = title ∧ a.2 = false).map fun a ↦ a.1.2

section Limit

variable {title : String} {calls : List (String × ℤ)}

/-- A call is one of a limiter under its title. -/
theorem shouldRateLimit_eq (title : String) (now : ℤ) (limiter : RateLimiter) :
    shouldRateLimit title now limiter =
      ((Limiter.answer maxNotificationsPerMinute minuteInSecs now (limiter title)).1,
        Function.update limiter title
          (Limiter.answer maxNotificationsPerMinute minuteInSecs now (limiter title)).2) := by
  rw [shouldRateLimit, Limiter.answer]
  split <;> rfl

theorem askAll_concat (calls : List (String × ℤ)) (c : String × ℤ) :
    askAll (calls ++ [c]) = (askAll calls).ask c := by
  rw [askAll, List.foldl_append]
  rfl

theorem timesOf_concat (title : String) (calls : List (String × ℤ)) (c : String × ℤ) :
    timesOf title (calls ++ [c]) = timesOf title calls ++ if c.1 = title then [c.2] else [] := by
  rw [timesOf, List.filter_append, List.map_append, ← timesOf]
  by_cases h : c.1 = title <;> simp [h]

/-- **Under a title** the timestamps are those of a limiter of its own. -/
theorem limiter_askAll (title : String) (calls : List (String × ℤ)) :
    (askAll calls).limiter title =
      (Limiter.run maxNotificationsPerMinute minuteInSecs (timesOf title calls)).kept := by
  induction calls using List.reverseRecOn with
  | nil => rfl
  | append_singleton calls c ih =>
    rw [askAll_concat, Asked.ask, shouldRateLimit_eq, timesOf_concat]
    by_cases h : c.1 = title
    · rw [if_pos h, Limiter.run_concat, h, ih]
      exact Function.update_self ..
    · rw [if_neg h, List.append_nil, ← ih]
      exact Function.update_of_ne (Ne.symm h) ..

/-- So are the answers. -/
theorem answers_askAll (title : String) (calls : List (String × ℤ)) :
    ((askAll calls).answers.filter fun a ↦ a.1.1 = title).map (fun a ↦ (a.1.2, a.2)) =
      (Limiter.run maxNotificationsPerMinute minuteInSecs (timesOf title calls)).answers := by
  induction calls using List.reverseRecOn with
  | nil => rfl
  | append_singleton calls c ih =>
    rw [askAll_concat, Asked.ask, List.filter_append, List.map_append, ih, timesOf_concat]
    by_cases h : c.1 = title
    · rw [if_pos h, Limiter.run_concat, Limiter.State.ask, ← limiter_askAll, shouldRateLimit_eq]
      simp [h]
    · rw [if_neg h, List.append_nil]
      simp [h]

theorem acceptedOf_askAll (title : String) (calls : List (String × ℤ)) :
    acceptedOf title (askAll calls).answers =
      Limiter.accepted (Limiter.run maxNotificationsPerMinute minuteInSecs
        (timesOf title calls)).answers := by
  rw [← answers_askAll, Limiter.accepted, List.filter_map, List.filter_filter, List.map_map,
    acceptedOf]
  congr 1
  refine List.filter_congr fun a _ ↦ ?_
  simp [and_comm]

theorem timesOf_filter (title : String) (calls : List (String × ℤ)) :
    timesOf title (calls.filter fun c ↦ c.1 = title) = timesOf title calls := by
  rw [timesOf, timesOf, List.filter_filter]
  simp

/-- The calls with other titles make no difference to the answers. -/
theorem filter_answers_askAll (title : String) (calls : List (String × ℤ)) :
    (askAll calls).answers.filter (fun a ↦ a.1.1 = title) =
      (askAll (calls.filter fun c ↦ c.1 = title)).answers := by
  induction calls using List.reverseRecOn with
  | nil => rfl
  | append_singleton calls c ih =>
    rw [askAll_concat, Asked.ask, List.filter_append, ih, List.filter_append]
    by_cases h : c.1 = title
    · have hsame : (askAll (calls.filter fun c ↦ c.1 = title)).limiter c.1 =
          (askAll calls).limiter c.1 := by
        rw [limiter_askAll, limiter_askAll, h, timesOf_filter]
      have hone : [c].filter (fun c ↦ c.1 = title) = [c] := by simp [h]
      rw [hone, askAll_concat, Asked.ask, shouldRateLimit_eq, shouldRateLimit_eq, hsame]
      simp [h]
    · simp [h]

/-- What comes later does not change the answers. -/
theorem exists_answers_append (pre post : List (String × ℤ)) :
    ∃ rest, (askAll (pre ++ post)).answers = (askAll pre).answers ++ rest := by
  induction post using List.reverseRecOn with
  | nil => exact ⟨[], by rw [List.append_nil, List.append_nil]⟩
  | append_singleton post c ih =>
    obtain ⟨rest, hrest⟩ := ih
    rw [← List.append_assoc, askAll_concat, Asked.ask, hrest, List.append_assoc]
    exact ⟨_, rfl⟩

theorem length_answers_askAll (calls : List (String × ℤ)) :
    (askAll calls).answers.length = calls.length := by
  induction calls using List.reverseRecOn with
  | nil => rfl
  | append_singleton calls c ih =>
    rw [askAll_concat, Asked.ask, List.length_append, ih, List.length_append]
    rfl

/-- The times under a title do not go down if the clock does not. -/
theorem pairwise_timesOf (h : (calls.map Prod.snd).Pairwise (· ≤ ·)) (title : String) :
    (timesOf title calls).Pairwise (· ≤ ·) :=
  h.sublist (List.filter_sublist.map Prod.snd)

/-- **The limit**, for calls with any titles while the clock does not go back.  No minute has more
than ten notifications with one title, a call is refused exactly when the minute that ends with it
has ten already, and the answers for a title depend on the calls with it alone. -/
theorem rateLimit (calls : List (String × ℤ)) (h : (calls.map Prod.snd).Pairwise (· ≤ ·)) :
    (∀ title t,
      (Limiter.inWindow 60 t (acceptedOf title (askAll calls).answers)).length ≤ 10) ∧
    (∀ pre c post, calls = pre ++ c :: post →
      (askAll calls).answers[pre.length]? =
        some (c, decide ((Limiter.inWindow 60 c.2
          (acceptedOf c.1 (askAll pre).answers)).length = 10))) ∧
    ∀ title, (askAll calls).answers.filter (fun a ↦ a.1.1 = title) =
      (askAll (calls.filter fun c ↦ c.1 = title)).answers := by
  refine ⟨fun title t ↦ ?_, fun pre c post hcalls ↦ ?_,
    fun title ↦ filter_answers_askAll title calls⟩
  · rw [acceptedOf_askAll]
    exact Limiter.length_inWindow_le (pairwise_timesOf h title) t
  · rw [hcalls, List.map_append, List.map_cons, List.pairwise_append] at h
    obtain ⟨hpre, -, hnow⟩ := h
    have htimes : ∀ x ∈ timesOf c.1 pre, x ≤ c.2 := fun x hx ↦
      hnow x ((List.filter_sublist.map Prod.snd).subset hx) c.2 List.mem_cons_self
    obtain ⟨rest, hrest⟩ := exists_answers_append (pre ++ [c]) post
    have hanswer : (shouldRateLimit c.1 c.2 (askAll pre).limiter).1 =
        decide ((Limiter.inWindow 60 c.2 (acceptedOf c.1 (askAll pre).answers)).length = 10) := by
      rw [shouldRateLimit_eq, limiter_askAll, acceptedOf_askAll, Bool.eq_iff_iff,
        decide_eq_true_eq]
      exact Limiter.answer_eq_true_iff (pairwise_timesOf hpre c.1) htimes
    rw [hcalls, List.append_cons, hrest, askAll_concat, Asked.ask, hanswer, List.append_assoc,
      ← length_answers_askAll pre, List.getElem?_append_right le_rfl, Nat.sub_self]
    rfl

/-- Eleven calls within a second. -/
theorem rateLimit_example :
    (askAll (List.replicate 11 ("Agent complete", 0))).answers[10]? =
      some (("Agent complete", 0), true) := by
  have h := (rateLimit (List.replicate 11 ("Agent complete", 0)) (by decide)).2.1
    (List.replicate 10 ("Agent complete", 0)) ("Agent complete", 0) [] (by decide)
  rw [List.length_replicate] at h
  rw [h]
  decide

end Limit

/-! ## Sending -/

/-- What a call of `send_notification` is about, and what it meets. -/
structure Sending where
  title : String
  body : String
  level : String
  /-- The clock, in seconds. -/
  now : ℤ
  /-- The id it gets. -/
  id : String
  /-- The clock, as text. -/
  timestamp : String
  /-- `create_dir_all` fails. -/
  directory : Option String
  /-- The log cannot be opened. -/
  opening : Option String
  /-- Writing fails, after so many characters. -/
  writing : Option (String × ℕ)

/-- The notification that is logged. -/
def Sending.notification (c : Sending) : Notification :=
  ⟨c.id, c.title, c.body, c.level, c.timestamp⟩

/-- The timestamps and the log, if it is there. -/
structure Notifier where
  limiter : RateLimiter
  log : Option (List Char)

/-- `log_notification`, and what it leaves of the log. -/
def logNotification (c : Sending) (log : Option (List Char)) :
    Except String Unit × Option (List Char) :=
  let request := Request.notification c.notification
  match c.directory, c.opening, c.writing with
  | some e, _, _ => (.error (request.dirError e), log)
  | none, some e, _ => (.error (request.openError e), log)
  | none, none, some (e, written) =>
    (.error (request.writeError e),
      some (log.getD [] ++ (request.text ++ [lineFeed]).take written))
  | none, none, none => (.ok (), some (log.getD [] ++ (request.text ++ [lineFeed])))

/-- `send_notification`. -/
def sendNotification (c : Sending) (s : Notifier) : Except String String × Notifier :=
  let limited := shouldRateLimit c.title c.now s.limiter
  if limited.1 then
    (.error ("Notification rate limit exceeded for '" ++ c.title ++ "'. Max 10 per minute."),
      { s with limiter := limited.2 })
  else
    let logged := logNotification c s.log
    (logged.1.map fun _ ↦ c.id, ⟨limited.2, logged.2⟩)

/-- One call after the other, with those that succeed. -/
def sendAll : List Sending → Notifier → List Sending × Notifier
  | [], s => ([], s)
  | c :: cs, s =>
    let sent := sendNotification c s
    let rest := sendAll cs sent.2
    match sent.1 with
    | .ok _ => (c :: rest.1, rest.2)
    | .error _ => rest

/-! ## Reading -/

section Reading

-- `serde_json::from_str`
variable (parse : List Char → Option Json)

/-- The notification in a document. -/
def ofDocument (v : Json) : Option Notification := do
  let id ← (v.get "id").bind Json.asStr
  let title ← (v.get "title").bind Json.asStr
  let body ← (v.get "body").bind Json.asStr
  let level ← (v.get "level").bind Json.asStr
  let timestamp ← (v.get "timestamp").bind Json.asStr
  return ⟨id, title, body, level, timestamp⟩

/-- The notification in a line, if there is one. -/
def ofLine (line : List Char) : Option Notification := (parse line).bind ofDocument

/-- What is read of the log: it may not be there, or not be readable as text. -/
abbrev LogFile := Option (Except String (List Char))

/-- `get_recent_notifications`. -/
def getRecentNotifications (limit : ℕ) : LogFile → Except String (List Notification)
  | none => .ok []
  | some (.error e) => .error ("Failed to read notifications log: " ++ e)
  | some (.ok content) => .ok (((strLines content).reverse.take limit).filterMap (ofLine parse))

/-- The lines of a log. -/
def linesOf : LogFile → List (List Char)
  | some (.ok content) => strLines content
  | _ => []

/-- The notifications in a log, the latest first. -/
def notifications (file : LogFile) : List Notification :=
  ((linesOf file).filterMap (ofLine parse)).reverse

/-- **When the latest notifications are returned**: when the log can be read, and all of the last
lines are notifications or none of the lines before them is. -/
theorem getRecentNotifications_eq_iff (file : LogFile) (limit : ℕ) :
    getRecentNotifications parse limit file = .ok ((notifications parse file).take limit) ↔
      (∀ e, file ≠ some (.error e)) ∧
        ((∀ line ∈ (linesOf file).reverse.take limit, (ofLine parse line).isSome = true) ∨
          ∀ line ∈ (linesOf file).reverse.drop limit, ofLine parse line = none) := by
  rw [← Lists.filterMap_take_eq_iff, List.filterMap_reverse, notifications]
  obtain _ | e | content := file
  · simp [getRecentNotifications, linesOf]
  · simp [getRecentNotifications]
  · simp [getRecentNotifications, linesOf]

end Reading

/-! ## What is sent is read -/

/-- The text of a notification has no carriage return at its end. -/
theorem getLast?_text_ne (n : Notification) :
    (Request.notification n).text.getLast? ≠ some '\r' := by
  obtain ⟨inner, htext⟩ := Json.exists_compact_obj
    [("body", .str n.body), ("id", .str n.id), ("level", .str n.level),
      ("timestamp", .str n.timestamp), ("title", .str n.title)]
  rw [show (Request.notification n).text = '{' :: (inner ++ ['}']) from htext, ← List.cons_append,
    List.getLast?_concat]
  decide

theorem ofDocument_document (n : Notification) :
    ofDocument (Request.notification n).document = some n := by
  simp [ofDocument, Request.document, List.lookup_cons]

/-- What a log has to be read from. -/
def Notifier.content (s : Notifier) : List Char := s.log.getD []

/-- The text that notifications are logged as. -/
def logText (ns : List Notification) : List Char :=
  terminated (ns.map fun n ↦ (Request.notification n).text)

theorem linesOf_eq (s : Notifier) : linesOf (s.log.map .ok) = strLines s.content := by
  rw [Notifier.content]
  obtain _ | content := s.log
  · rfl
  · rfl

/-- The lines of a log of notifications. -/
theorem strLines_logText (ns : List Notification) :
    strLines (logText ns) = ns.map fun n ↦ (Request.notification n).text := by
  refine strLines_terminated (fun record hmem ↦ ?_) fun record hmem ↦ ?_
  · obtain ⟨n, -, rfl⟩ := List.mem_map.mp hmem
    exact (Request.notification n).lineFeed_notMem_text
  · obtain ⟨n, -, rfl⟩ := List.mem_map.mp hmem
    exact getLast?_text_ne n

/-- **A call** that writes its whole line or nothing adds the line to the log if and only if it
succeeds. -/
theorem sendNotification_spec {c : Sending} (s : Notifier)
    (hwriting : ∀ e written, c.writing = some (e, written) → written = 0) :
    (∃ id, (sendNotification c s).1 = .ok id ∧
      (sendNotification c s).2.content = s.content ++ logText [c.notification]) ∨
    ∃ e, (sendNotification c s).1 = .error e ∧ (sendNotification c s).2.content = s.content := by
  rw [sendNotification]
  split
  · exact .inr ⟨_, rfl, rfl⟩
  · rw [logNotification]
    rcases hdirectory : c.directory with _ | e
    · rcases hopening : c.opening with _ | e
      · rcases hwrite : c.writing with _ | ⟨e, written⟩
        · refine .inl ⟨_, rfl, congrArg (s.content ++ ·) ?_⟩
          exact (terminated_singleton _).symm
        · obtain rfl := hwriting e written hwrite
          exact .inr ⟨_, rfl, List.append_nil _⟩
      · exact .inr ⟨_, rfl, rfl⟩
    · exact .inr ⟨_, rfl, rfl⟩

/-- **Some calls** add the lines of those that succeed. -/
theorem content_sendAll {cs : List Sending}
    (hwriting : ∀ c ∈ cs, ∀ e written, c.writing = some (e, written) → written = 0)
    (s : Notifier) :
    (sendAll cs s).2.content =
      s.content ++ logText ((sendAll cs s).1.map Sending.notification) := by
  induction cs generalizing s with
  | nil => exact (List.append_nil _).symm
  | cons c cs ih =>
    obtain ⟨hc, hcs⟩ := List.forall_mem_cons.mp hwriting
    rw [sendAll]
    obtain ⟨id, hok, hcontent⟩ | ⟨e, herror, hcontent⟩ := sendNotification_spec s hc
    · simp only [hok]
      rw [ih hcs, hcontent, List.map_cons, List.append_assoc, logText, logText, logText,
        ← terminated_append, ← List.map_append]
      rfl
    · simp only [herror]
      rw [ih hcs, hcontent]

/-- A call that succeeds is one of the calls. -/
theorem mem_of_mem_sendAll {cs : List Sending} {s : Notifier} {c : Sending}
    (h : c ∈ (sendAll cs s).1) : c ∈ cs := by
  induction cs generalizing s with
  | nil => cases h
  | cons d cs ih =>
    rw [sendAll] at h
    cases hsent : (sendNotification d s).1 with
    | ok id =>
      simp only [hsent] at h
      obtain rfl | h := List.mem_cons.mp h
      · exact List.mem_cons_self
      · exact List.mem_cons_of_mem d (ih h)
    | error e =>
      simp only [hsent] at h
      exact List.mem_cons_of_mem d (ih h)

/-- The notifications in a log of nothing else. -/
theorem notifications_of_logText {parse : List Char → Option Json} {s : Notifier}
    {ns : List Notification} (hlog : s.content = logText ns)
    (hparse : ∀ n ∈ ns, parse (Request.notification n).text =
      some (Request.notification n).document) (limit : ℕ) :
    getRecentNotifications parse limit (s.log.map .ok) = .ok (ns.reverse.take limit) := by
  have hline : ∀ n ∈ ns, ofLine parse (Request.notification n).text = some n := fun n hn ↦ by
    rw [ofLine, hparse n hn, Option.bind_some, ofDocument_document]
  have hlines : linesOf (s.log.map .ok) = ns.map fun n ↦ (Request.notification n).text := by
    rw [linesOf_eq, hlog, strLines_logText]
  have hread : notifications parse (s.log.map .ok) = ns.reverse := by
    rw [notifications, hlines, List.filterMap_map]
    congr 1
    exact (List.filterMap_congr hline).trans List.filterMap_some
  rw [← hread, getRecentNotifications_eq_iff, hlines, ← List.map_reverse, ← List.map_take]
  refine ⟨fun e he ↦ ?_, .inl fun line hmem ↦ ?_⟩
  · cases hs : s.log with
    | none => rw [hs] at he; cases he
    | some content => rw [hs] at he; cases he
  · obtain ⟨n, hn, rfl⟩ := List.mem_map.mp hmem
    rw [hline n (List.mem_reverse.mp (List.mem_of_mem_take hn))]
    rfl

/-- **Recent notifications.**  The latest ones are returned exactly when all of the last lines are
notifications, or none of the lines before them is.  And where notifications are sent to a log that
has notifications only, whatever they say, they are read as they were sent. -/
theorem recentNotifications (parse : List Char → Option Json) :
    (∀ file limit,
      getRecentNotifications parse limit file = .ok ((notifications parse file).take limit) ↔
        (∀ e, file ≠ some (.error e)) ∧
          ((∀ line ∈ (linesOf file).reverse.take limit, (ofLine parse line).isSome = true) ∨
            ∀ line ∈ (linesOf file).reverse.drop limit, ofLine parse line = none)) ∧
    ∀ (earlier : List Notification) (s : Notifier) (cs : List Sending),
      s.content = logText earlier →
      (∀ c ∈ cs, ∀ e written, c.writing = some (e, written) → written = 0) →
      (∀ n ∈ earlier ++ cs.map Sending.notification,
        parse (Request.notification n).text = some (Request.notification n).document) →
      ∀ limit, getRecentNotifications parse limit ((sendAll cs s).2.log.map .ok) =
        .ok ((earlier ++ (sendAll cs s).1.map Sending.notification).reverse.take limit) := by
  refine ⟨fun file limit ↦ getRecentNotifications_eq_iff parse file limit,
    fun earlier s cs hearlier hwriting hparse limit ↦ ?_⟩
  refine notifications_of_logText ?_ (fun n hn ↦ hparse n ?_) limit
  · rw [content_sendAll hwriting, hearlier, logText, logText, logText, ← terminated_append,
      ← List.map_append]
  · obtain hn | hn := List.mem_append.mp hn
    · exact List.mem_append_left _ hn
    · obtain ⟨c, hc, rfl⟩ := List.mem_map.mp hn
      exact List.mem_append_right _ (List.mem_map_of_mem (mem_of_mem_sendAll hc))

/-- A notification whose text has more than one line. -/
def exampleSending : Sending :=
  ⟨"Agent complete", "Two lines:\n\"done\"", "success", 0, "n", "2026-01-01T00:00:00+00:00", none,
    none, none⟩

/-- A parser that knows its text. -/
def exampleParse (cs : List Char) : Option Json :=
  if cs = (Request.notification exampleSending.notification).text then
    some (Request.notification exampleSending.notification).document
  else none

theorem recentNotifications_example :
    getRecentNotifications exampleParse 5
        ((sendAll [exampleSending] ⟨fun _ ↦ [], none⟩).2.log.map .ok) =
      .ok [exampleSending.notification] :=
  (recentNotifications exampleParse).2 [] ⟨fun _ ↦ [], none⟩ [exampleSending] rfl
    (List.forall_mem_singleton.mpr fun _ _ h ↦ nomatch h)
    (List.forall_mem_singleton.mpr (if_pos rfl)) 5

/-- A line that is no document. -/
def exampleLine : List Char := "not a record".toList

/-- A line that is no notification, behind one that is: the latest notification is not
returned. -/
theorem recentNotifications_counterexample :
    getRecentNotifications exampleParse 1 (some (.ok (terminated
        [(Request.notification exampleSending.notification).text, exampleLine]))) =
        .ok [] ∧
      (notifications exampleParse (some (.ok (terminated
        [(Request.notification exampleSending.notification).text, exampleLine])))).take 1 =
        [exampleSending.notification] := by
  have hlines : strLines (terminated
      [(Request.notification exampleSending.notification).text, exampleLine]) =
        [(Request.notification exampleSending.notification).text, exampleLine] :=
    strLines_terminated (by decide) (by decide)
  have hrecord : ofLine exampleParse (Request.notification exampleSending.notification).text =
      some exampleSending.notification := by
    rw [ofLine, exampleParse, if_pos rfl, Option.bind_some, ofDocument_document]
  have hother : ofLine exampleParse exampleLine = none := by
    rw [ofLine, exampleParse, if_neg (by decide), Option.bind_none]
  simp only [getRecentNotifications, notifications, linesOf, hlines]
  simp [hrecord, hother]

end WorkWithMe.Server.Notifications
