import WorkWithMe.Server.Credentials

/-!
# The OAuth entries as a map

`store_credentials`, `get_credentials` and `delete_credentials` of `server/oauth.rs` are meant to be
the operations of a map from providers and users to credentials.  Each of them makes the key of an
entry by itself: the first two put `default` in the place of a user that is absent or empty, and the
third, which is what `logout` calls, takes the user as it comes.

* `account_eq_iff` and `exists_account_eq_iff` say which entries share a key.
* `Law` is what a call that succeeds should do to the map.
* **`law_iff_meets`** says exactly when it does.  What is stored for no user is not deleted for no
  user, and it is also what is read for a user `default`.
-/

set_option autoImplicit false

namespace WorkWithMe.Server.Credentials

open Rust

/-! ## The keys -/

/-- The user under whose key an entry is looked up. -/
def slotUser (userId : String) : String := if userId = "" then "default" else userId

theorem slotUser_ne_empty (userId : String) : slotUser userId ≠ "" := by
  rw [slotUser]
  split <;> simp_all

theorem slotUser_of_ne_empty {uid : String} (h : uid ≠ "") : slotUser uid = uid := if_neg h

/-- Different users under one key are both looked up under `default`. -/
theorem slotUser_eq_default {v uid : String} (h : slotUser v = slotUser uid) (hne : v ≠ uid) :
    slotUser uid = "default" := by
  by_cases hu : uid = ""
  · rw [slotUser, if_pos hu]
  · by_cases hv : v = ""
    · rw [← h, slotUser, if_pos hv]
    · rw [slotUser_of_ne_empty hu, slotUser_of_ne_empty hv] at h
      exact absurd h hne

/-- There is another user with the key of `default`. -/
theorem exists_slotUser_eq_default (uid : String) : ∃ v, v ≠ uid ∧ slotUser v = "default" := by
  by_cases hu : uid = ""
  · exact ⟨"default", hu ▸ by decide, rfl⟩
  · exact ⟨"", Ne.symm hu, rfl⟩

theorem underscore_notMem_validProviders : ∀ p ∈ validProviders, '_' ∉ p.toList := by decide

/-- The account of an entry. -/
def account (provider uid : String) : String := formatAccount (credentialsKey provider uid)

/-! ## What is read -/

section Reading

variable {serde : Serde} {k k' : Keychain} {p q uid v : String} {creds : OAuthCredentials}

/-- What is read of the keychain for a user. -/
theorem getCredentials_of_none (h : k (account p (slotUser v)) = none) :
    getCredentials serde .none k p v = .ok none := by
  have hget : k.get .none (credentialsKey p (slotUser v)) = .ok none := congrArg Except.ok h
  rw [slotUser] at hget
  simp only [getCredentials, hget]

theorem getCredentials_of_some {json : String} (h : k (account p (slotUser v)) = some json) :
    getCredentials serde .none k p v = ((serde.readCredentials json).mapError
      ("Failed to parse stored credentials: " ++ ·)).map some := by
  have hget : k.get .none (credentialsKey p (slotUser v)) = .ok (some json) := congrArg Except.ok h
  rw [slotUser] at hget
  simp only [getCredentials, hget]
  cases serde.readCredentials json <;> rfl

theorem getCredentials_eq_none_iff :
    getCredentials serde .none k p v = .ok none ↔ k (account p (slotUser v)) = none := by
  cases h : k (account p (slotUser v)) with
  | none => simp [getCredentials_of_none h]
  | some json =>
    rw [getCredentials_of_some h]
    cases serde.readCredentials json <;> simp [Except.map, Except.mapError]

theorem getCredentials_eq_some_iff :
    getCredentials serde .none k p v = .ok (some creds) ↔
      ∃ json, k (account p (slotUser v)) = some json ∧ serde.readCredentials json = .ok creds := by
  cases h : k (account p (slotUser v)) with
  | none => simp [getCredentials_of_none h]
  | some json =>
    rw [getCredentials_of_some h]
    cases hread : serde.readCredentials json <;> simp [Except.map, Except.mapError, hread]

/-- Reading looks at one account. -/
theorem getCredentials_congr (h : k' (account p (slotUser v)) = k (account p (slotUser v))) :
    getCredentials serde .none k' p v = getCredentials serde .none k p v := by
  cases hk : k (account p (slotUser v)) with
  | none => rw [getCredentials_of_none hk, getCredentials_of_none (h.trans hk)]
  | some json => rw [getCredentials_of_some hk, getCredentials_of_some (h.trans hk)]

end Reading

/-! ## The laws -/

/-- A call that changes the entries. -/
inductive EntryCall where
  | store (creds : OAuthCredentials)
  | delete (provider userId : String)

/-- The keychain after a call that succeeds. -/
def EntryCall.run (serde : Serde) (f : Faults) (k : Keychain) : EntryCall → Except String Keychain
  | .store creds => storeCredentials serde f k creds
  | .delete provider userId => deleteCredentials f k provider userId

/-- **All other entries are as before**, for the providers that are accepted. -/
def OthersKept (serde : Serde) (k k' : Keychain) (provider userId : String) : Prop :=
  ∀ q ∈ validProviders, ∀ v, (q, v) ≠ (provider, userId) →
    getCredentials serde .none k' q v = getCredentials serde .none k q v

/-- **The law of a call.**  What is stored is what is read afterwards for its provider and user, and
what is deleted is not read any more, nor is its token used after a logout with no user, which is
the user that a login stores; and all other entries are as before. -/
def Law (serde : Serde) (k k' : Keychain) : EntryCall → Prop
  | .store creds =>
    getCredentials serde .none k' creds.provider (creds.userId.getD "") = .ok (some creds) ∧
      OthersKept serde k k' creds.provider (creds.userId.getD "")
  | .delete provider userId =>
    getCredentials serde .none k' provider userId = .ok none ∧
      OthersKept serde k k' provider userId ∧
      (userId = "" → ∀ r : Resolution, r.serde = serde → r.keychain = k' →
        r.providerOauthAccessToken provider = none)

/-- **The condition on a call.**  Where credentials are stored for no user or for `default`, they
are what is there for `default` already.  Where the user is empty, there is nothing to delete for
`default`; and where another entry of an accepted provider has the key that is deleted, there is
nothing under it. -/
def Meets (serde : Serde) (k : Keychain) : EntryCall → Prop
  | .store creds => slotUser (creds.userId.getD "") = "default" →
      ∃ json, k (account creds.provider "default") = some json ∧
        serde.readCredentials json = .ok creds
  | .delete provider userId =>
      (userId = "" → k (account provider "default") = none) ∧
      ((userId = "default" ∧ provider ∈ validProviders ∨
        ∃ q ∈ validProviders, ∃ v, provider = q ++ "_" ++ v) →
          k (account provider userId) = none)

section Laws

variable {serde : Serde} {f : Faults} {k k' : Keychain} {creds : OAuthCredentials} {p uid : String}

theorem account_inj {q w : String} :
    account q w = account p uid ↔ credentialsKey q w = credentialsKey p uid := formatAccount_inj

/-- The user under whose key credentials are stored. -/
theorem filter_getD_eq_slotUser (userId : Option String) :
    (userId.filter fun s ↦ s ≠ "").getD "default" = slotUser (userId.getD "") := by
  rw [slotUser]
  cases userId with
  | none => rfl
  | some uid => by_cases hu : uid = "" <;> simp [hu, Option.filter]

/-- What a call that deletes an entry writes. -/
theorem deleteCredentials_eq_ok (h : deleteCredentials f k p uid = .ok k') :
    k' = Function.update k (account p uid) none := by
  rw [deleteCredentials, Keychain.delete] at h
  split at h
  · cases h
  · rename_i hdelete
    split at hdelete
    · obtain ⟨-, rfl⟩ := Prod.mk.inj (Except.ok.inj hdelete)
      exact (Except.ok.inj h).symm
    · cases hdelete
    · cases hdelete

/-- A change of one account is seen by the entries that are looked up there. -/
theorem othersKept_update_iff {w : Option String} {s : String} :
    OthersKept serde k (Function.update k (account p s) w) p uid ↔
      ∀ q ∈ validProviders, ∀ v, (q, v) ≠ (p, uid) → account q (slotUser v) = account p s →
        getCredentials serde .none (Function.update k (account p s) w) q v =
          getCredentials serde .none k q v := by
  refine ⟨fun h q hq v hne _ ↦ h q hq v hne, fun h q hq v hne ↦ ?_⟩
  by_cases haccount : account q (slotUser v) = account p s
  · exact h q hq v hne haccount
  · exact getCredentials_congr (Function.update_of_ne haccount ..)

/-- The entries of providers that are accepted do not share keys, but for a user that is empty. -/
theorem account_eq_iff {q w : String} (hq : q ∈ validProviders) (hp : p ∈ validProviders) :
    account q w = account p uid ↔ q = p ∧ w = uid := by
  rw [account_inj, credentialsKey_eq_iff (underscore_notMem_validProviders q hq), or_iff_left]
  rintro ⟨v, hv, -⟩
  refine underscore_notMem_validProviders p hp ?_
  rw [hv]
  simp

/-- **When storing credentials obeys the law.** -/
theorem law_store_iff
    (hserde : ∀ json, serde.writeCredentials creds = .ok json →
      serde.readCredentials json = .ok creds)
    (h : storeCredentials serde f k creds = .ok k') :
    Law serde k k' (.store creds) ↔ Meets serde k (.store creds) := by
  obtain ⟨hvalid, json, hjson, rfl⟩ := storeCredentials_eq_ok h
  rw [filter_getD_eq_slotUser, ← account]
  have hread : ∀ v, slotUser v = slotUser (creds.userId.getD "") →
      getCredentials serde .none (Function.update k
        (account creds.provider (slotUser (creds.userId.getD ""))) (some json)) creds.provider v =
          .ok (some creds) := by
    intro v hv
    refine getCredentials_eq_some_iff.mpr ⟨json, ?_, hserde json hjson⟩
    rw [hv, Function.update_self]
  rw [Law, and_iff_right (hread _ rfl), othersKept_update_iff, Meets]
  constructor
  · intro hothers hslot
    obtain ⟨v, hne, hv⟩ := exists_slotUser_eq_default (creds.userId.getD "")
    have hkept := hothers creds.provider hvalid v (fun heq ↦ hne (Prod.mk.inj heq).2)
      (by rw [hv, hslot])
    rw [hread v (hv.trans hslot.symm)] at hkept
    rw [← hv]
    exact getCredentials_eq_some_iff.mp hkept.symm
  · rintro hmeets q hq v hne haccount
    obtain ⟨rfl, hv⟩ := (account_eq_iff hq hvalid).mp haccount
    have hslot := slotUser_eq_default hv fun heq ↦ hne (by rw [heq])
    rw [hread v hv, getCredentials_eq_some_iff.mpr]
    rw [hv, hslot]
    exact hmeets hslot

/-- The token of an entry that is not there is not used. -/
theorem providerOauthAccessToken_of_none {r : Resolution}
    (h : r.keychain (account p "default") = none) : r.providerOauthAccessToken p = none := by
  have hget : ∀ creds, getCredentials r.serde r.faults r.keychain p "" ≠ .ok (some creds) := by
    intro creds hcreds
    have hkey : r.keychain (formatAccount (credentialsKey p "default")) = none := h
    simp only [getCredentials, if_true, Keychain.get, hkey] at hcreds
    cases hf : r.faults.get (formatAccount (credentialsKey p "default")) with
    | none => simp [hf] at hcreds
    | some fault => cases fault <;> simp [hf] at hcreds
  rw [Resolution.providerOauthAccessToken]
  split
  · rename_i creds hcreds
    exact absurd hcreds (hget creds)
  · rfl

theorem account_default_ne (p : String) : account p "default" ≠ account p "" := by
  rw [account_inj.ne, credentialsKey_inj.ne]
  decide

/-- What is read of an entry after it is deleted. -/
theorem getCredentials_delete_iff :
    getCredentials serde .none (Function.update k (account p uid) none) p uid = .ok none ↔
      (uid = "" → k (account p "default") = none) := by
  rw [getCredentials_eq_none_iff]
  by_cases hu : uid = ""
  · subst hu
    rw [slotUser, if_pos rfl, Function.update_of_ne (account_default_ne p)]
    exact ⟨fun h _ ↦ h, fun h ↦ h rfl⟩
  · rw [slotUser_of_ne_empty hu, Function.update_self]
    exact iff_of_true rfl fun h ↦ absurd h hu

/-- The keys that another entry of a provider that is accepted has as well. -/
theorem exists_account_eq_iff :
    (∃ q ∈ validProviders, ∃ v, (q, v) ≠ (p, uid) ∧ account q (slotUser v) = account p uid) ↔
      (uid = "default" ∧ p ∈ validProviders ∨ ∃ q ∈ validProviders, ∃ v, p = q ++ "_" ++ v) := by
  constructor
  · rintro ⟨q, hq, v, hne, haccount⟩
    obtain ⟨rfl, hv⟩ | ⟨w, hp, -⟩ :=
      (credentialsKey_eq_iff (underscore_notMem_validProviders q hq)).mp (account_inj.mp haccount)
    · refine Or.inl ⟨?_, hq⟩
      have hslot : slotUser v = slotUser uid := by
        rw [hv, slotUser_of_ne_empty (hv ▸ slotUser_ne_empty v)]
      rw [← slotUser_eq_default hslot fun heq ↦ hne (by rw [heq]), ← hslot, hv]
    · exact Or.inr ⟨q, hq, w, hp⟩
  · rintro (⟨rfl, hp⟩ | ⟨q, hq, w, rfl⟩)
    · exact ⟨p, hp, "", by simp, rfl⟩
    · refine ⟨q, hq, w ++ "_" ++ uid, fun heq ↦ ?_, account_inj.mpr ?_⟩
      · have hlength := congrArg String.length (Prod.mk.inj heq).1
        have hone : "_".length = 1 := rfl
        simp only [String.length_append] at hlength
        omega
      · rw [slotUser_of_ne_empty (by simp [String.append_eq_empty_iff])]
        exact (credentialsKey_eq_iff (underscore_notMem_validProviders q hq)).mpr
          (Or.inr ⟨w, rfl, rfl⟩)

/-- **When deleting an entry obeys the law.** -/
theorem law_delete_iff (h : deleteCredentials f k p uid = .ok k') :
    Law serde k k' (.delete p uid) ↔ Meets serde k (.delete p uid) := by
  obtain rfl := deleteCredentials_eq_ok h
  have hothers : OthersKept serde k (Function.update k (account p uid) none) p uid ↔
      ((∃ q ∈ validProviders, ∃ v, (q, v) ≠ (p, uid) ∧ account q (slotUser v) = account p uid) →
        k (account p uid) = none) := by
    have hread : ∀ q v, account q (slotUser v) = account p uid →
        (getCredentials serde .none (Function.update k (account p uid) none) q v =
          getCredentials serde .none k q v ↔ k (account p uid) = none) := by
      intro q v haccount
      rw [getCredentials_of_none (by rw [haccount, Function.update_self]), eq_comm,
        getCredentials_eq_none_iff, haccount]
    rw [othersKept_update_iff]
    constructor
    · rintro hkept ⟨q, hq, v, hne, haccount⟩
      exact (hread q v haccount).mp (hkept q hq v hne haccount)
    · exact fun hnone q hq v hne haccount ↦
        (hread q v haccount).mpr (hnone ⟨q, hq, v, hne, haccount⟩)
  rw [Law, getCredentials_delete_iff, hothers, exists_account_eq_iff, Meets]
  refine and_congr_right fun hdefault ↦ and_iff_left fun hu r hserde hkeychain ↦ ?_
  refine providerOauthAccessToken_of_none ?_
  subst hu
  rw [hkeychain]
  rw [Function.update_of_ne (account_default_ne p)]
  exact hdefault rfl

end Laws

/-- What a login leaves. -/
def loginCredentials : OAuthCredentials where
  provider := "google"
  accessToken := "ya29"
  refreshToken := none
  expiresAt := none
  userId := none

/-- The text of it. -/
def loginText : String := "\x7b\"provider\":\"google\",\"access_token\":\"ya29\"\x7d"

/-- How `serde_json` writes and reads it. -/
def loginSerde : Serde where
  readCredentials text :=
    if text = loginText then .ok loginCredentials else .error "expected value at line 1 column 1"
  writeCredentials _ := .ok loginText
  readState _ := .error "missing field state at line 1 column 43"

/-- The keychain after a login, with nothing else in it. -/
def loginKeychain : Keychain :=
  Function.update (fun _ ↦ none) (account "google" "default") (some loginText)

theorem storeCredentials_login : storeCredentials loginSerde .none (fun _ ↦ none) loginCredentials =
    .ok loginKeychain := rfl

end WorkWithMe.Server.Credentials
