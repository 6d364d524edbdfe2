import WorkWithMe.Client.Messages
import WorkWithMe.Connectors.Catalog
import WorkWithMe.Mcp.Config

/-!
# Adding a connector, from the form to the list

Two forms send `POST /api/connectors/remote-mcp`: the panel for a custom connector, which makes a
slug from the name, and the form under a connector of the list, which has its slug.  Both put the
slug under `id`.  The endpoint reads it under `slug`.

* `generateSlug_spec` says what the slug of a custom connector is: new, of at most 63 characters,
  and of the characters that `isSlugChar` lets through or a dash.
* `add_request` says what becomes of it: the endpoint refuses every request of the two forms, and
  `mcp.json` stays as it is.
* `not_addedEndToEnd` is the result: from no form does a connector get into the store and into the
  list.  The second half fails on its own account, by `status_of_mem_connectors`.
-/

set_option autoImplicit false

namespace WorkWithMe.Connectors

open Client JsonFile Mcp Server

/-! ## The slug -/

/-- `[a-z0-9]`. -/
def isSlugChar (c : Char) : Bool := ('a' ≤ c && c ≤ 'z') || ('0' ≤ c && c ≤ '9')

/-- Every run of other characters turned into one dash. -/
def dashed : List Char → List Char
  | [] => []
  | c :: cs =>
    if isSlugChar c then c :: dashed cs
    else match dashed cs with
      | '-' :: rest => '-' :: rest
      | rest => '-' :: rest

/-- The dashes at both ends taken away. -/
def undashed (cs : List Char) : List Char :=
  ((cs.dropWhile (· = '-')).reverse.dropWhile (· = '-')).reverse

/-- The characters of a name that go into its slug. -/
def slugChars (toLowerCase : String → String) (name : String) : List Char :=
  (undashed (dashed (toLowerCase name).toList)).take 63

/-- The slug that belongs to a name, whether it is taken or not. -/
def slugBase (toLowerCase : String → String) (name : String) : String :=
  if slugChars toLowerCase name = [] then "custom" else .ofList (slugChars toLowerCase name)

/-- The other slugs that are tried. -/
def candidates (base : String) : List String :=
  (List.range' 2 98).map fun i ↦ .ofList ((base ++ "-" ++ toString i).toList.take 63)

/-- `generateSlug`, with the empty text where all the candidates are taken. -/
def generateSlug (toLowerCase : String → String) (name : String) (existingIds : List String) :
    String :=
  if slugBase toLowerCase name ∉ existingIds then slugBase toLowerCase name
  else ((candidates (slugBase toLowerCase name)).find? fun candidate ↦
    candidate ∉ existingIds).getD ""

/-! ## The forms -/

/-- The length of a text in UTF-16. -/
def utf16Length (s : String) : ℕ := (s.toList.map fun c ↦ if c.toNat < 0x10000 then 1 else 2).sum

/-- The errors that a form shows, by their fields. -/
abbrev FormErrors := List (String × String)

/-- The check of the address, which the two forms have in common. -/
def urlErrors (toLowerCase : String → String) (url : String) : FormErrors :=
  if trim url = "" then [("url", "Server URL is required")]
  else if ¬ "https://".toList <+: (toLowerCase (trim url)).toList then
    [("url", "Must be a valid https:// URL")]
  else if utf16Length (trim url) > 2048 then [("url", "URL is too long")]
  else []

/-- `CustomConnectorPanel`: the check of the name. -/
def nameErrors (name : String) : FormErrors :=
  if trim name = "" then [("name", "Name is required")]
  else if utf16Length (trim name) > 64 then
    [("name", "Name must be 64 characters or fewer")]
  else []

/-- The check of the token. -/
def tokenErrors (required : Bool) (token : String) : FormErrors :=
  if required && token = "" then [("token", "Auth token is required")] else []

/-- What a form sends: the slug it has chosen, and the body. -/
structure AddRequest where
  /-- The slug. -/
  slug : String
  /-- The name. -/
  name : String
  /-- The address. -/
  url : String
  /-- The token; one that is `undefined` is left out. -/
  token : Option String

/-- The body. -/
def AddRequest.body (r : AddRequest) : Json :=
  .obj ([("id", .str r.slug), ("name", .str r.name), ("url", .str r.url)] ++
    (r.token.map fun token ↦ ("token", .str token)).toList)

/-- `handleAdd` of `CustomConnectorPanel`, up to its request. -/
def handleAdd (toLowerCase : String → String) (existingIds : List String)
    (name url token : String) : Except FormErrors AddRequest :=
  match nameErrors name ++ urlErrors toLowerCase url ++ tokenErrors true token with
  | [] =>
    let slug := generateSlug toLowerCase (trim name) existingIds
    if slug = "" then .error [("name", "Too many connectors with similar names")]
    else .ok ⟨slug, trim name, trim url, some token⟩
  | errors => .error errors

/-- What the second form reads of its connector. -/
structure ConnectorEntry where
  /-- The id. -/
  id : String
  /-- The name. -/
  name : String
  /-- `requiresToken`. -/
  requiresToken : Bool

/-- A text without the first occurrence of another. -/
def removeFirst (pattern : List Char) : List Char → List Char
  | [] => []
  | c :: cs =>
    if pattern <+: c :: cs then (c :: cs).drop pattern.length else c :: removeFirst pattern cs

/-- The slug of a connector. -/
def ConnectorEntry.slug (connector : ConnectorEntry) : String :=
  .ofList (removeFirst "remote-mcp/".toList connector.id.toList)

/-- `handleConnect` of `ConnectForm`, up to its request. -/
def handleConnect (toLowerCase : String → String) (connector : ConnectorEntry)
    (url token : String) : Except FormErrors AddRequest :=
  match urlErrors toLowerCase url ++ tokenErrors connector.requiresToken token with
  | [] => .ok ⟨connector.slug, connector.name, trim url, if token = "" then none else some token⟩
  | errors => .error errors

/-- A form that has been filled in. -/
inductive Form where
  /-- `CustomConnectorPanel`. -/
  | custom (existingIds : List String) (name url token : String)
  /-- `ConnectForm`. -/
  | connect (connector : ConnectorEntry) (url token : String)

/-- What the form does when it is submitted. -/
def Form.submit (toLowerCase : String → String) : Form → Except FormErrors AddRequest
  | .custom existingIds name url token => handleAdd toLowerCase existingIds name url token
  | .connect connector url token => handleConnect toLowerCase connector url token

/-! ## What the slug of a custom connector is -/

section Slug

variable {toLowerCase : String → String} {name : String} {existingIds : List String}

theorem isSlugChar_or_of_mem_dashed {c : Char} {cs : List Char} (h : c ∈ dashed cs) :
    isSlugChar c = true ∨ c = '-' := by
  induction cs with
  | nil => cases h
  | cons d cs ih =>
    rw [dashed] at h
    split at h
    · rename_i hd
      obtain rfl | h := List.mem_cons.mp h
      · exact Or.inl hd
      · exact ih h
    · split at h
      · rename_i rest hrest
        exact ih (hrest ▸ h)
      · obtain rfl | h := List.mem_cons.mp h
        · exact Or.inr rfl
        · exact ih h

/-- The characters of a slug, and their number. -/
def IsSlug (slug : String) : Prop :=
  slug.toList.length ≤ 63 ∧ ∀ c ∈ slug.toList, isSlugChar c = true ∨ c = '-'

theorem mem_dashed_of_mem_slugChars {c : Char} (h : c ∈ slugChars toLowerCase name) :
    c ∈ dashed (toLowerCase name).toList := by
  have hundashed := List.mem_reverse.mp (List.mem_of_mem_take h)
  exact (List.dropWhile_suffix _).subset
    (List.mem_reverse.mp ((List.dropWhile_suffix _).subset hundashed))

theorem isSlug_slugBase : IsSlug (slugBase toLowerCase name) := by
  rw [slugBase]
  split
  · have hall : "custom".toList.all isSlugChar = true := by decide
    exact ⟨by decide, fun c hc ↦ Or.inl (List.all_eq_true.mp hall c hc)⟩
  · rw [IsSlug, String.toList_ofList]
    exact ⟨List.length_take_le .., fun c hc ↦
      isSlugChar_or_of_mem_dashed (mem_dashed_of_mem_slugChars hc)⟩

theorem isSlugChar_of_mem_toString {n : ℕ} {c : Char} (h : c ∈ (toString n).toList) :
    isSlugChar c = true := by
  rw [Nat.toString_eq_repr, Nat.toList_repr] at h
  have hdigit : c.isDigit = true := Nat.isDigit_of_mem_toDigits (by omega) (by omega) h
  simp only [Char.isDigit, Bool.and_eq_true, decide_eq_true_eq] at hdigit
  simp only [isSlugChar, Bool.or_eq_true, Bool.and_eq_true, decide_eq_true_eq]
  exact Or.inr hdigit

theorem isSlug_of_mem_candidates {base slug : String} (hbase : IsSlug base)
    (h : slug ∈ candidates base) : IsSlug slug := by
  obtain ⟨i, -, rfl⟩ := List.mem_map.mp h
  rw [IsSlug, String.toList_ofList]
  refine ⟨List.length_take_le .., fun c hc ↦ ?_⟩
  have hmem := List.mem_of_mem_take hc
  simp only [String.toList_append, List.mem_append] at hmem
  obtain (hc | hc) | hc := hmem
  · exact hbase.2 c hc
  · exact Or.inr (by simpa using hc)
  · exact Or.inl (isSlugChar_of_mem_toString hc)

/-- **The slug of a custom connector**, where there is one, is new. -/
theorem generateSlug_spec : generateSlug toLowerCase name existingIds = "" ∨
    (generateSlug toLowerCase name existingIds ∉ existingIds ∧
      IsSlug (generateSlug toLowerCase name existingIds)) := by
  rw [generateSlug]
  split
  · rename_i hnew
    exact Or.inr ⟨hnew, isSlug_slugBase⟩
  · cases hfind : (candidates (slugBase toLowerCase name)).find? fun candidate ↦
      candidate ∉ existingIds with
    | none => exact Or.inl rfl
    | some slug =>
      refine Or.inr ⟨by simpa using List.find?_some hfind, ?_⟩
      exact isSlug_of_mem_candidates isSlug_slugBase (List.mem_of_find?_eq_some hfind)

end Slug

/-! ## What becomes of a request -/

/-- **The endpoint refuses what the forms send**, and stores nothing. -/
theorem add_request (f : Faults) (r : AddRequest) (file : Option Contents) :
    add f r.body file = (some (failure 400 "slug is required"), file) := by
  have hslug : payloadSlug r.body = "" := by
    cases r with
    | mk slug name url token => cases token <;> rfl
  rw [add, if_pos hslug]

/-- **A connector is added**: the endpoint accepts the request, stores it under the slug that the
form has chosen, and the list has it then. -/
structure AddedEndToEnd (f : Faults) (file : Option Contents) (r : AddRequest) : Prop where
  accepted : ∃ response, (add f r.body file).1 = some response ∧ response.status = 200
  stored : ∃ config, (add f r.body file).2 = some (.doc config) ∧
    serverEntry config r.slug = some r.body
  listed : ∃ v ∈ connectors, v.get "id" = some (.str (connectorId r.slug)) ∧
    v.get "name" = some (.str r.name) ∧ v.get "url" = some (.str r.url) ∧
      v.get "status" ≠ some (.str "available")

/-- **No connector is added**, from either form. -/
theorem not_addedEndToEnd (toLowerCase : String → String) (form : Form) (f : Faults)
    (file : Option Contents) :
    ∀ r, form.submit toLowerCase = .ok r → ¬ AddedEndToEnd f file r := by
  rintro r - h
  obtain ⟨response, hresponse, hstatus⟩ := h.accepted
  rw [add_request] at hresponse
  obtain rfl := Option.some.inj hresponse
  exact absurd hstatus (by decide)

/-- Lower case where the letters are those of English. -/
def asciiLowerCase (s : String) : String := .ofList (s.toList.map Char.toLower)

/-- A custom connector. -/
def exampleForm : Form :=
  .custom ["github"] " My server" "https://mcp.example.com/v1" "secret"

/-- What the panel sends for it. -/
def exampleRequest : AddRequest :=
  ⟨"my-server", "My server", "https://mcp.example.com/v1", some "secret"⟩

theorem not_addedEndToEnd_example :
    exampleForm.submit asciiLowerCase = .ok exampleRequest ∧
      ¬ AddedEndToEnd .none none exampleRequest := by
  have hsubmit : exampleForm.submit asciiLowerCase = .ok exampleRequest := by rfl
  exact ⟨hsubmit, not_addedEndToEnd asciiLowerCase exampleForm .none none exampleRequest hsubmit⟩

/-- A custom connector with an address that the filter accepts is not added. -/
theorem not_forall_addedEndToEnd :
    ¬ ∀ (toLowerCase : String → String) (form : Form) (r : AddRequest) (f : Faults)
      (file : Option Contents), form.submit toLowerCase = .ok r → validateMcpUrl r.url = .ok () →
        AddedEndToEnd f file r := by
  intro hall
  have hvalid : validateMcpUrl exampleRequest.url = .ok () :=
    validateMcpUrl_eq_ok_iff.mpr ⟨by decide, by decide, by decide⟩
  obtain ⟨response, hresponse, hstatus⟩ :=
    (hall asciiLowerCase exampleForm exampleRequest .none none rfl hvalid).accepted
  rw [add_request] at hresponse
  obtain rfl := Option.some.inj hresponse
  exact absurd hstatus (by decide)

end WorkWithMe.Connectors
