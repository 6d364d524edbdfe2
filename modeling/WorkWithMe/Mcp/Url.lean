import WorkWithMe.Lib.Uri

/-!
# The address filter for MCP servers

`validateMcpUrl` is `validate_mcp_url` of `server/mcp.rs`: it demands the literal scheme
`https://`, cuts a host out of the rest with two splits, and refuses it when it starts with one of
eleven strings.  A client that then connects to the URL cuts the host out by the rules of RFC 3986,
so the filter is judged by what the two have to do with each other.

* `not_prefix_rawHost` and `prefix_rawHost_of_filterHost` are the whole relation: without userinfo,
  and for a string that contains no colon, being a prefix of the host the filter looks at and being
  a prefix of the host the client connects to are the same thing.  The two bracketed entries of the
  table do contain colons, and so never match anything (`not_prefix_filterHost_of_colon`).
* `not_internalHost_iff` says exactly which of the accepted URLs lead to an internal
  address.
* `validateMcpUrl_public_iff` says exactly which URLs of public hosts are refused.
-/

set_option autoImplicit false

namespace WorkWithMe.Mcp

open Uri

/-! ## The filter -/

/-- The strings a host must not start with. -/
def restrictedPatterns : List String :=
  ["localhost", "127.0.0.1", "0.0.0.0", "192.168.", "10.", "172.1", "172.2", "172.3", "[::1]",
    "[::ffff:", "169.254."]

/-- What follows the first eight characters, those of `https://`. -/
def withoutScheme (url : String) : List Char := url.toList.drop 8

/-- The host the filter looks at: what stands before the first `/`, and of that what stands before
the first `:`. -/
def filterHost (url : String) : List Char :=
  ((withoutScheme url).takeWhile (· ≠ '/')).takeWhile (· ≠ ':')

/-- `validate_mcp_url`. -/
def validateMcpUrl (url : String) : Except String Unit :=
  if ¬ "https://".toList <+: url.toList then
    .error "MCP URLs must use HTTPS protocol"
  else if filterHost url = [] then
    .error "MCP URL must have a valid host"
  else if ∃ p ∈ restrictedPatterns, p.toList <+: filterHost url then
    .error ("Access denied: cannot connect to internal network: " ++ String.ofList (filterHost url))
  else
    .ok ()

theorem validateMcpUrl_eq_ok_iff {url : String} :
    validateMcpUrl url = .ok () ↔ "https://".toList <+: url.toList ∧ filterHost url ≠ [] ∧
      ∀ p ∈ restrictedPatterns, ¬ p.toList <+: filterHost url := by
  unfold validateMcpUrl
  split
  · rename_i hs
    exact iff_of_false (by simp) fun h ↦ hs h.1
  · rename_i hs
    split
    · rename_i he
      exact iff_of_false (by simp) fun h ↦ h.2.1 he
    · rename_i he
      split
      · rename_i hr
        obtain ⟨p, hp, hpre⟩ := hr
        exact iff_of_false (by simp) fun h ↦ h.2.2 p hp hpre
      · rename_i hr
        exact iff_of_true rfl ⟨not_not.mp hs, he, fun p hp hpre ↦ hr ⟨p, hp, hpre⟩⟩

/-! ## The two ways of cutting out a host -/

theorem prefix_filterHost_iff {url : String} {p : List Char} :
    p <+: filterHost url ↔ p <+: withoutScheme url ∧ ∀ c ∈ p, c ≠ '/' ∧ c ≠ ':' := by
  rw [filterHost, isPrefix_takeWhile_iff, isPrefix_takeWhile_iff, and_assoc, ← forall₂_and]
  simp

/-- **The bracketed entries are dead.**  The split at `:` leaves no colon in the host. -/
theorem not_prefix_filterHost_of_colon {url : String} {p : List Char} (h : ':' ∈ p) :
    ¬ p <+: filterHost url :=
  fun hp ↦ ((prefix_filterHost_iff.mp hp).2 ':' h).2 rfl

/-- An entry of the table without a colon contains none of the characters that end a host. -/
theorem plain_of_mem_restrictedPatterns {p : String} (hp : p ∈ restrictedPatterns)
    (hc : ':' ∉ p.toList) : ∀ c ∈ p.toList, (c ≠ '/' ∧ c ≠ ':') ∧ inAuthority c = true := by
  have hall : p.toList.all (fun c ↦ c ≠ '/' && c ≠ ':' && inAuthority c) = true := by
    revert p
    decide
  intro c hmem
  simpa using List.all_eq_true.mp hall c hmem

/-- The entries of the table with a colon are the bracketed ones. -/
theorem bracket_of_colon {p : String} (hp : p ∈ restrictedPatterns) (hc : ':' ∈ p.toList) :
    p.toList.head? = some '[' := by
  revert p
  decide

/-- What the filter lets through does not spell an entry of the table at the start of the host the
client connects to, if there is no userinfo. -/
theorem not_prefix_rawHost {url : String} (hacc : validateMcpUrl url = .ok ())
    (hat : '@' ∉ authority (withoutScheme url)) {p : String} (hp : p ∈ restrictedPatterns)
    (hc : ':' ∉ p.toList) : ¬ p.toList <+: rawHost (withoutScheme url) := by
  intro h
  refine (validateMcpUrl_eq_ok_iff.mp hacc).2.2 p hp (prefix_filterHost_iff.mpr ⟨?_, ?_⟩)
  · exact h.trans (rawHost_isPrefix hat)
  · exact fun c hmem ↦ (plain_of_mem_restrictedPatterns hp hc c hmem).1

/-- An entry of the table that the filter finds in a host is spelled at the start of the host the
client connects to, if there is no userinfo and the host is not an IP literal. -/
theorem prefix_rawHost_of_filterHost {url : String} (hat : '@' ∉ authority (withoutScheme url))
    (hhead : (rawHost (withoutScheme url)).head? ≠ some '[') {p : String}
    (hp : p ∈ restrictedPatterns) (h : p.toList <+: filterHost url) :
    p.toList <+: rawHost (withoutScheme url) := by
  have hc : ':' ∉ p.toList := fun hmem ↦ not_prefix_filterHost_of_colon hmem h
  refine prefix_rawHost hat hhead (prefix_filterHost_iff.mp h).1 fun c hmem ↦ ?_
  have hplain := plain_of_mem_restrictedPatterns hp hc c hmem
  exact ⟨hplain.2, hplain.1.2⟩

/-! ## Soundness: which accepted URLs lead to an internal address -/

/-- The IPv4 addresses the filter is there to keep out. -/
def InternalRange (a b c d : ℕ) : Prop :=
  a = 127 ∨ (a = 0 ∧ b = 0 ∧ c = 0 ∧ d = 0) ∨ a = 10 ∨ (a = 172 ∧ 16 ≤ b ∧ b ≤ 31) ∨
    (a = 192 ∧ b = 168) ∨ (a = 169 ∧ b = 254)

/-- The hosts the filter is there to keep out. -/
inductive InternalHost : List Char → Prop
  /-- The name of the machine itself. -/
  | localhost : InternalHost "localhost".toList
  /-- An address of an internal range. -/
  | ipv4 {a b c d : ℕ} (ha : a < 256) (hb : b < 256) (hc : c < 256) (hd : d < 256)
      (h : InternalRange a b c d) : InternalHost (dottedQuad a b c d)
  /-- The IPv6 loopback address. -/
  | loopback : InternalHost "[::1]".toList
  /-- An IPv4 address in IPv6 clothes. -/
  | mapped (l : List Char) : InternalHost ("[::ffff:".toList ++ l)

/-- The kinds of URL that get past the filter to an internal address: userinfo in front of an
internal host, a spelling of `localhost` in other letters, an address of `127.0.0.0/8`, and the two
kinds of IP literal. -/
def EvadesFilter (url : String) : Prop :=
  let h := host (withoutScheme url)
  ('@' ∈ authority (withoutScheme url) ∧ InternalHost h) ∨ h = "localhost".toList ∨
    (∃ b c d, b < 256 ∧ c < 256 ∧ d < 256 ∧ h = dottedQuad 127 b c d) ∨
    h = "[::1]".toList ∨ "[::ffff:".toList <+: h

/-- The three entries for `172.` look at the first digit of the second octet. -/
theorem exists_prefix_172_iff {b c d : ℕ} (hb : b < 256) :
    (∃ p ∈ ["172.1", "172.2", "172.3"], p.toList <+: dottedQuad 172 b c d) ↔
      (1 ≤ b ∧ b ≤ 3) ∨ (10 ≤ b ∧ b ≤ 39) ∨ 100 ≤ b := by
  have hpre : ∀ x, octet 172 ++ ['.', x] <+: dottedQuad 172 b c d ↔ [x] <+: octet b :=
    fun x ↦ octet_digit_prefix_dottedQuad_iff.trans (and_iff_right rfl)
  have h1 : "172.1".toList <+: dottedQuad 172 b c d ↔ ['1'] <+: octet b := hpre '1'
  have h2 : "172.2".toList <+: dottedQuad 172 b c d ↔ ['2'] <+: octet b := hpre '2'
  have h3 : "172.3".toList <+: dottedQuad 172 b c d ↔ ['3'] <+: octet b := hpre '3'
  rw [one_prefix_octet_iff hb] at h1
  rw [two_prefix_octet_iff hb] at h2
  rw [three_prefix_octet_iff hb] at h3
  simp only [List.mem_cons, List.not_mem_nil, or_false, exists_eq_or_imp, exists_eq_left, h1, h2,
    h3]
  omega

theorem mem_restrictedPatterns_of_172 {p : String} (hp : p ∈ ["172.1", "172.2", "172.3"]) :
    p ∈ restrictedPatterns ∧ ':' ∉ p.toList := by
  revert p
  decide

/-- Of the internal ranges only `127.0.0.0/8` has addresses that the table does not cover. -/
theorem exists_prefix_of_internalRange {a b c d : ℕ} (hb : b < 256) (h : InternalRange a b c d)
    (ha : a ≠ 127) :
    ∃ p ∈ restrictedPatterns, ':' ∉ p.toList ∧ p.toList <+: dottedQuad a b c d := by
  rcases h with rfl | ⟨rfl, rfl, rfl, rfl⟩ | rfl | ⟨rfl, h1, h2⟩ | ⟨rfl, rfl⟩ | ⟨rfl, rfl⟩
  · exact absurd rfl ha
  · exact ⟨"0.0.0.0", by decide, by decide, List.prefix_rfl⟩
  · exact ⟨"10.", by decide, by decide, (octet_prefix_dottedQuad_iff (m := 10)).mpr rfl⟩
  · obtain ⟨p, hp, hpre⟩ := (exists_prefix_172_iff (c := c) (d := d) hb).mpr (by omega)
    have hp' := mem_restrictedPatterns_of_172 hp
    exact ⟨p, hp'.1, hp'.2, hpre⟩
  · exact ⟨"192.168.", by decide, by decide,
      (octets_prefix_dottedQuad_iff (m := 192) (n := 168)).mpr ⟨rfl, rfl⟩⟩
  · exact ⟨"169.254.", by decide, by decide,
      (octets_prefix_dottedQuad_iff (m := 169) (n := 254)).mpr ⟨rfl, rfl⟩⟩

/-- An accepted URL without userinfo does not lead to an internal IPv4 address outside
`127.0.0.0/8`. -/
theorem eq_of_internalRange {url : String} (hacc : validateMcpUrl url = .ok ())
    (hat : '@' ∉ authority (withoutScheme url)) {a b c d : ℕ} (hb : b < 256)
    (hr : InternalRange a b c d) (hh : host (withoutScheme url) = dottedQuad a b c d) :
    a = 127 := by
  by_contra ha
  obtain ⟨p, hp, hc, hpre⟩ := exists_prefix_of_internalRange hb hr ha
  rw [host] at hh
  rw [← eq_dottedQuad_of_fold hh] at hpre
  exact not_prefix_rawHost hacc hat hp hc hpre

/-- **Which accepted URLs lead to an internal address**: those of the kinds of `EvadesFilter`, and
no others. -/
theorem not_internalHost_iff (url : String) (hacc : validateMcpUrl url = .ok ()) :
    ¬ InternalHost (host (withoutScheme url)) ↔ ¬ EvadesFilter url := by
  refine not_congr ⟨fun h ↦ ?_, ?_⟩
  · by_cases hat : '@' ∈ authority (withoutScheme url)
    · exact Or.inl ⟨hat, h⟩
    · refine Or.inr ?_
      generalize hh : host (withoutScheme url) = l at h
      cases h with
      | localhost => exact Or.inl rfl
      | @ipv4 a b c d ha hb hc hd hr =>
        obtain rfl := eq_of_internalRange hacc hat hb hr hh
        exact Or.inr (Or.inl ⟨b, c, d, hb, hc, hd, rfl⟩)
      | loopback => exact Or.inr (Or.inr (Or.inl rfl))
      | mapped l => exact Or.inr (Or.inr (Or.inr (List.prefix_append _ _)))
  · simp only [EvadesFilter]
    rintro (⟨-, h⟩ | h | ⟨b, c, d, hb, hc, hd, h⟩ | h | ⟨l, h⟩)
    · exact h
    · exact h ▸ .localhost
    · exact h ▸ .ipv4 (by decide) hb hc hd (Or.inl rfl)
    · exact h ▸ .loopback
    · exact h ▸ .mapped l

/-- `https://example.com/v1` is accepted and leads to no internal address. -/
theorem not_internalHost_iff_example :
    validateMcpUrl "https://example.com/v1" = .ok () ∧
      (¬ InternalHost (host (withoutScheme "https://example.com/v1")) ↔
        ¬ EvadesFilter "https://example.com/v1") :=
  ⟨by decide, not_internalHost_iff _ (by decide)⟩

/-- **The filter is not sound**: `https://[::1]/` is accepted. -/
theorem exists_accepted_internalHost :
    ¬ ∀ url, validateMcpUrl url = .ok () → ¬ InternalHost (host (withoutScheme url)) := by
  intro h
  refine h "https://[::1]/" (by decide) ?_
  have hh : host (withoutScheme "https://[::1]/") = "[::1]".toList := by decide
  exact hh ▸ .loopback

/-! ## Over-blocking: which URLs of public hosts are refused -/

/-- A label of a DNS name. -/
def IsLabel (l : List Char) : Prop := l ≠ [] ∧ ∀ c ∈ l, c.isAlphanum = true ∨ c = '-' ∨ c = '_'

/-- A multi-label DNS name that is not an IPv4 literal and whose last label is neither numeric nor
`localhost`. -/
structure PublicName (h : List Char) : Prop where
  /-- The name is made of at least two labels, and its last one is not of the excluded kinds. -/
  labels : ∃ ls : List (List Char), 2 ≤ ls.length ∧ (∀ l ∈ ls, IsLabel l) ∧
    h = ['.'].intercalate ls ∧ ∀ l, ls.getLast? = some l →
      ¬ (∀ c ∈ l, c.isDigit = true) ∧ l.map Char.toLower ≠ "localhost".toList
  /-- It does not spell an address. -/
  notIpv4 : ¬ IsIpv4 h

/-- A host outside the internal ranges: an IPv4 literal or a DNS name. -/
inductive PublicHost : List Char → Prop
  /-- An address of no internal range. -/
  | ipv4 {a b c d : ℕ} (ha : a < 256) (hb : b < 256) (hc : c < 256) (hd : d < 256)
      (h : ¬ InternalRange a b c d) : PublicHost (dottedQuad a b c d)
  /-- A name. -/
  | name {h : List Char} (hn : PublicName h) : PublicHost h

/-- What the table lets through: an address unless it starts with `172` and an octet that starts
with one of the digits `1`, `2` and `3`, and a name unless it starts with one of the entries. -/
def Unblocked (h : List Char) : Prop :=
  (∀ a b c d, a < 256 → b < 256 → c < 256 → d < 256 → h = dottedQuad a b c d →
    ¬ (a = 172 ∧ ((1 ≤ b ∧ b ≤ 3) ∨ (10 ≤ b ∧ b ≤ 39) ∨ 100 ≤ b))) ∧
    (¬ IsIpv4 h → ∀ p ∈ restrictedPatterns, ¬ p.toList <+: h)

theorem not_prefix_dottedQuad {a b c d : ℕ} {p : List Char} {x : Char} (hx : x ∈ p)
    (hdigit : ¬ (x.isDigit = true ∨ x = '.')) : ¬ p <+: dottedQuad a b c d :=
  fun h ↦ hdigit (digit_or_dot_of_mem_dottedQuad (h.subset hx))

/-- Of the addresses outside the internal ranges the table blocks those of `172.0.0.0/8` whose
second octet starts with one of the digits `1`, `2` and `3`. -/
theorem exists_prefix_dottedQuad_iff {a b c d : ℕ} (hb : b < 256) (hd : d < 256)
    (h : ¬ InternalRange a b c d) :
    (∃ p ∈ restrictedPatterns, p.toList <+: dottedQuad a b c d) ↔
      a = 172 ∧ ((1 ≤ b ∧ b ≤ 3) ∨ (10 ≤ b ∧ b ≤ 39) ∨ 100 ≤ b) := by
  constructor
  · rintro ⟨p, hp, hpre⟩
    have h172 : ∀ x, "172.".toList ++ [x] <+: dottedQuad a b c d → a = 172 :=
      fun x hx ↦ (octet_digit_prefix_dottedQuad_iff (m := 172)).mp hx |>.1.symm
    have hmem : p ∈ ["172.1", "172.2", "172.3"] →
        a = 172 ∧ ((1 ≤ b ∧ b ≤ 3) ∨ (10 ≤ b ∧ b ≤ 39) ∨ 100 ≤ b) := by
      intro hp3
      have ha : a = 172 := by
        simp only [List.mem_cons, List.not_mem_nil, or_false] at hp3
        rcases hp3 with rfl | rfl | rfl
        · exact h172 '1' hpre
        · exact h172 '2' hpre
        · exact h172 '3' hpre
      subst ha
      exact ⟨rfl, (exists_prefix_172_iff hb).mp ⟨p, hp3, hpre⟩⟩
    simp only [restrictedPatterns, List.mem_cons, List.not_mem_nil, or_false] at hp
    -- every other entry contains a letter or a bracket, or spells out an internal address
    rcases hp with rfl | rfl | rfl | rfl | rfl | rfl | rfl | rfl | rfl | rfl | rfl
    · exact absurd hpre (not_prefix_dottedQuad (x := 'l') (by decide) (by decide))
    · have ha := ((octet_prefix_iff (m := 127) (p := "0.0.1".toList)).mp hpre).1
      exact absurd (Or.inl ha.symm) h
    · obtain ⟨rfl, hb0⟩ := (octet_prefix_iff (m := 0) (p := "0.0.0".toList)).mp hpre
      obtain ⟨rfl, hc0⟩ := (octet_prefix_iff (m := 0) (p := "0.0".toList)).mp hb0
      obtain ⟨rfl, hd0⟩ := (octet_prefix_iff (m := 0) (p := "0".toList)).mp hc0
      obtain rfl := (zero_prefix_octet_iff hd).mp hd0
      exact absurd (Or.inr (Or.inl ⟨rfl, rfl, rfl, rfl⟩)) h
    · obtain ⟨rfl, rfl⟩ := (octets_prefix_dottedQuad_iff (m := 192) (n := 168)).mp hpre
      exact absurd (by simp [InternalRange]) h
    · obtain rfl := (octet_prefix_dottedQuad_iff (m := 10)).mp hpre
      exact absurd (by simp [InternalRange]) h
    · exact hmem (by decide)
    · exact hmem (by decide)
    · exact hmem (by decide)
    · exact absurd hpre (not_prefix_dottedQuad (x := '[') (by decide) (by decide))
    · exact absurd hpre (not_prefix_dottedQuad (x := '[') (by decide) (by decide))
    · obtain ⟨rfl, rfl⟩ := (octets_prefix_dottedQuad_iff (m := 169) (n := 254)).mp hpre
      exact absurd (by simp [InternalRange]) h
  · rintro ⟨rfl, hlead⟩
    obtain ⟨p, hp, hpre⟩ := (exists_prefix_172_iff (c := c) (d := d) hb).mpr hlead
    exact ⟨p, (mem_restrictedPatterns_of_172 hp).1, hpre⟩

/-- A public host starts with a letter, a digit, a hyphen or an underscore. -/
theorem PublicHost.head {h : List Char} (hh : PublicHost h) :
    ∃ x t, h = x :: t ∧ x ≠ '/' ∧ x ≠ ':' ∧ x ≠ '[' := by
  have hplain : ∀ x : Char, x.isAlphanum = true ∨ x = '-' ∨ x = '_' →
      x ≠ '/' ∧ x ≠ ':' ∧ x ≠ '[' := by
    rintro x hx
    refine ⟨?_, ?_, ?_⟩ <;> rintro rfl <;> revert hx <;> decide
  cases hh with
  | @ipv4 a b c d ha hb hc hd hr =>
    obtain ⟨x, t, hx⟩ := List.exists_cons_of_ne_nil (octet_ne_nil a)
    refine ⟨x, t ++ '.' :: (octet b ++ '.' :: (octet c ++ '.' :: octet d)), ?_, hplain x ?_⟩
    · rw [dottedQuad, hx, List.cons_append]
    · have hdig := isDigit_of_mem_octet (n := a) (c := x) (by simp [hx])
      exact Or.inl (by simp [Char.isAlphanum, hdig])
  | name hn =>
    obtain ⟨ls, hlen, hls, rfl, -⟩ := hn.labels
    obtain _ | ⟨l, _ | ⟨m, ls⟩⟩ := ls
    · simp at hlen
    · simp at hlen
    · obtain ⟨hne, hl⟩ := hls l List.mem_cons_self
      obtain ⟨x, t, rfl⟩ := List.exists_cons_of_ne_nil hne
      exact ⟨x, t ++ '.' :: ['.'].intercalate (m :: ls), by simp [List.intercalate], hplain x
        (hl x List.mem_cons_self)⟩

/-- For the URL of a public host the table is in effect compared with the host itself. -/
theorem validateMcpUrl_eq_ok_iff_of_publicHost {url : String} {rest : List Char}
    (hrest : withoutScheme url = rest) (hat : '@' ∉ authority rest)
    (hpub : PublicHost (rawHost rest)) :
    validateMcpUrl url = .ok () ↔ "https://".toList <+: url.toList ∧
      ∀ p ∈ restrictedPatterns, ¬ p.toList <+: rawHost rest := by
  subst hrest
  obtain ⟨x, t, hx, hslash, hcolon, hbracket⟩ := hpub.head
  have hhead : (rawHost (withoutScheme url)).head? ≠ some '[' := by
    simpa [hx] using hbracket
  have hne : filterHost url ≠ [] := by
    have hpre : [x] <+: filterHost url := by
      refine prefix_filterHost_iff.mpr ⟨?_, by simpa using ⟨hslash, hcolon⟩⟩
      exact (hx ▸ by simp [List.cons_prefix_cons] : [x] <+: rawHost _).trans (rawHost_isPrefix hat)
    intro he
    simp [he] at hpre
  rw [validateMcpUrl_eq_ok_iff, and_iff_right hne]
  refine and_congr_right fun _ ↦ ⟨fun h p hp hpre ↦ ?_, fun h p hp hpre ↦ ?_⟩
  · refine h p hp (prefix_filterHost_iff.mpr ⟨hpre.trans (rawHost_isPrefix hat), ?_⟩)
    by_cases hc : ':' ∈ p.toList
    · obtain ⟨u, hu⟩ := List.head?_eq_some_iff.mp (bracket_of_colon hp hc)
      rw [hu, hx, List.cons_prefix_cons] at hpre
      exact absurd hpre.1.symm hbracket
    · exact fun c hmem ↦ (plain_of_mem_restrictedPatterns hp hc c hmem).1
  · exact h p hp (prefix_rawHost_of_filterHost hat hhead hp hpre)

/-- The entries of the table that block a public host. -/
theorem unblocked_iff {h : List Char} (hpub : PublicHost h) :
    Unblocked h ↔ ∀ p ∈ restrictedPatterns, ¬ p.toList <+: h := by
  cases hpub with
  | @ipv4 a b c d ha hb hc hd hr =>
    have hiff := exists_prefix_dottedQuad_iff hb hd hr
    constructor
    · intro hu p hp hpre
      exact hu.1 a b c d ha hb hc hd rfl (hiff.mp ⟨p, hp, hpre⟩)
    · intro hp
      refine ⟨fun a' b' c' d' ha' hb' hc' hd' he h172 ↦ ?_, fun hn ↦ ?_⟩
      · obtain ⟨rfl, rfl⟩ := eq_of_dottedQuad_eq he
        obtain ⟨p, hmem, hpre⟩ := hiff.mpr h172
        exact hp p hmem hpre
      · exact absurd ⟨a, b, c, d, ha, hb, hc, hd, rfl⟩ hn
  | name hn =>
    constructor
    · exact fun hu ↦ hu.2 hn.notIpv4
    · exact fun hp ↦ ⟨fun a b c d ha hb hc hd he ↦
        absurd ⟨a, b, c, d, ha, hb, hc, hd, he⟩ hn.notIpv4, fun _ ↦ hp⟩

/-- A URL whose scheme has five letters continues after its first eight characters. -/
theorem withoutScheme_of_hasScheme {url : String} {rest : List Char}
    (h : HasScheme "https".toList url.toList rest) : withoutScheme url = rest := by
  obtain ⟨s, hs, hu⟩ := h
  have hlen : s.length = 5 := by
    rw [← List.length_map (f := Char.toLower), hs]
    rfl
  rw [withoutScheme, hu, List.drop_append]
  simp [hlen]

/-- **Which URLs of public hosts are accepted**: those whose scheme is spelled `https` and whose
host the table lets through, whatever port and path follow. -/
theorem validateMcpUrl_public_iff (url : String) (rest : List Char)
    (hs : HasScheme "https".toList url.toList rest) (hat : '@' ∉ authority rest)
    (hpub : PublicHost (rawHost rest)) :
    validateMcpUrl url = .ok () ↔ "https://".toList <+: url.toList ∧ Unblocked (rawHost rest) := by
  rw [validateMcpUrl_eq_ok_iff_of_publicHost (withoutScheme_of_hasScheme hs) hat hpub,
    unblocked_iff hpub]

/-- `api.example.com` is a public name. -/
theorem publicName_example : PublicName "api.example.com".toList where
  labels := by
    refine ⟨["api".toList, "example".toList, "com".toList], by decide, ?_, by decide, ?_⟩
    · have hletters : ∀ l ∈ ["api".toList, "example".toList, "com".toList],
          l ≠ [] ∧ l.all Char.isAlphanum = true := by
        decide
      exact fun l hl ↦ ⟨(hletters l hl).1,
        fun c hc ↦ Or.inl (List.all_eq_true.mp (hletters l hl).2 c hc)⟩
    · rintro l hl
      obtain rfl : "com".toList = l := Option.some.inj hl
      exact ⟨fun h ↦ absurd (h 'c' (by decide)) (by decide), by decide⟩
  notIpv4 := by
    rintro ⟨a, b, c, d, -, -, -, -, h⟩
    have hmem : 'a' ∈ dottedQuad a b c d := h ▸ by decide
    exact absurd (digit_or_dot_of_mem_dottedQuad hmem) (by decide)

/-- A URL with a port and a path. -/
theorem validateMcpUrl_public_iff_example :
    HasScheme "https".toList "https://api.example.com:8443/v1".toList
        "api.example.com:8443/v1".toList ∧
      (validateMcpUrl "https://api.example.com:8443/v1" = .ok () ↔
        "https://".toList <+: "https://api.example.com:8443/v1".toList ∧
          Unblocked (rawHost "api.example.com:8443/v1".toList)) := by
  have hs : HasScheme "https".toList "https://api.example.com:8443/v1".toList
      "api.example.com:8443/v1".toList := ⟨"https".toList, by decide, by decide⟩
  have hh : rawHost "api.example.com:8443/v1".toList = "api.example.com".toList := by decide
  exact ⟨hs, validateMcpUrl_public_iff _ _ hs (by decide) (hh ▸ .name publicName_example)⟩

/-- **The filter over-blocks**: `172.1.0.1` is a public address, and `https://172.1.0.1/` is
refused. -/
theorem exists_refused_publicHost :
    ¬ ∀ url rest, HasScheme "https".toList url.toList rest → '@' ∉ authority rest →
      PublicHost (rawHost rest) → validateMcpUrl url = .ok () := by
  intro h
  have hh : rawHost "172.1.0.1/".toList = dottedQuad 172 1 0 1 := by decide
  have hpub : PublicHost (rawHost "172.1.0.1/".toList) := by
    rw [hh]
    exact .ipv4 (by decide) (by decide) (by decide) (by decide) (by unfold InternalRange; decide)
  exact absurd (h "https://172.1.0.1/" _ ⟨"https".toList, by decide, by decide⟩ (by decide) hpub)
    (by decide)

end WorkWithMe.Mcp
