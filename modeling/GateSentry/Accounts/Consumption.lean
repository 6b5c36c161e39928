import GateSentry.Accounts.Users

/-!
# The consumption page

`GSApiConsumptionPOST`: accounts that are not submitted are removed, the others are updated
one after the other.  The runtime writes back none of this but a new account.
-/

namespace GateSentry.Accounts

open Foundation ByteText

abbrev Submission := UserPublic × UpdateAnswer

/-- The accounts are looked through in the slice that was captured when the server started. -/
def removeUnsubmitted (captured : List GSUser) (submitted : List Submission)
    (runtime : GSRuntime) : GSRuntime :=
  let removed := captured.filter fun account => !submitted.any (utf8 ·.1.user = account.user)
  removed.foldl (fun runtime account => runtime.removeUser account.user) runtime

/-- The submitted accounts come with what the store answers to their updates. -/
def gsApiConsumptionPOST (captured : List GSUser) (submitted : List Submission)
    (runtime : GSRuntime) : GSRuntime :=
  submitted.foldl (fun runtime s => runtime.updateUser s.1 s.2)
    (removeUnsubmitted captured submitted runtime)

structure Applied (before : List GSUser) (submitted : List UserPublic) (after : List GSUser) :
    Prop where
  names : ∀ name, (∃ account ∈ after, account.user = name) ↔ ∃ s ∈ submitted,
    utf8 s.user = name ∧ (utf8 s.password ≠ [] ∨ ∃ account ∈ before, account.user = name)
  access : ∀ s ∈ submitted, ∀ account ∈ after, account.user = utf8 s.user →
    account.allowAccess = s.allowAccess
  passwords : ∀ s ∈ submitted, utf8 s.password ≠ [] → ∀ account ∈ after,
    account.user = utf8 s.user → ∀ password,
      account.base64String = credential s.user password ↔ password = s.password
  kept : ∀ account ∈ after, (∀ s ∈ submitted, utf8 s.user = account.user → utf8 s.password = []) →
      ∃ old ∈ before, old.user = account.user ∧ old.base64String = account.base64String

def Blank (s : UserPublic) (accounts : List GSUser) : Prop :=
  ∃ account ∈ accounts, account.user = utf8 s.user ∧ account.base64String = []

theorem Blank.not_applied {s : UserPublic} {before after : List GSUser}
    {submitted : List UserPublic} (h : Blank s after) (hs : s ∈ submitted)
    (hpassword : utf8 s.password ≠ []) : ¬ Applied before submitted after := by
  intro happlied
  obtain ⟨account, haccount, hname, hempty⟩ := h
  have hcredential := (happlied.passwords s hs hpassword account haccount hname s.password).mpr rfl
  rw [hempty] at hcredential
  have hnil := @Base64.encode_injective [] _ hcredential
  simp [show utf8 ":" = [Net.colon] by decide] at hnil

namespace GSRuntime

/-- `AddUser` has nothing to store: the account is in memory, or it is not to be written. -/
def Knows (runtime : GSRuntime) (s : Submission) : Prop :=
  utf8 s.1.user ≠ [] → utf8 s.1.password ≠ [] → s.2.write ≠ .failed →
    ∃ held ∈ runtime.authUsers, held.user = utf8 s.1.user

/-- Every account is known when its turn comes. -/
def KnowsAll (runtime : GSRuntime) : List Submission → Prop
  | [] => True
  | s :: rest => runtime.Knows s ∧ (runtime.updateUser s.1 s.2).KnowsAll rest

theorem stored_updateUser (runtime : GSRuntime) (s : Submission) :
    runtime.Knows s ∧ (runtime.updateUser s.1 s.2).stored = runtime.stored ∨
      ¬ runtime.Knows s ∧ utf8 s.1.password ≠ [] ∧
        Blank s.1 (runtime.updateUser s.1 s.2).stored := by
  unfold updateUser
  split
  · next hknown =>
    refine .inl ⟨fun _ _ _ => by simpa using hknown, ?_⟩
    unfold init
    split_ifs <;> rfl
  · next hunknown =>
    have hknows : ¬ runtime.Knows s ↔
        utf8 s.1.user ≠ [] ∧ utf8 s.1.password ≠ [] ∧ s.2.write ≠ .failed := by
      simp only [List.any_eq_true, decide_eq_true_eq] at hunknown
      simp [Knows, hunknown]
    unfold addUser
    rw [if_neg hunknown]
    split
    · next hempty =>
      refine .inl ⟨not_not.mp fun h => ?_, rfl⟩
      simp [(hknows.mp h).1, (hknows.mp h).2.1] at hempty
    · next hnamed =>
      rw [Bool.or_eq_true, not_or, List.isEmpty_iff, List.isEmpty_iff] at hnamed
      have hblank : Blank s.1 (runtime.authUsers ++
          [{ user := utf8 s.1.user, pass := utf8 s.1.password, base64String := []
             allowAccess := false }]) := ⟨_, List.mem_append_right _ List.mem_cons_self, rfl, rfl⟩
      cases hwrite : s.2.write with
      | loaded | stored =>
        exact .inr ⟨hknows.mpr ⟨hnamed.1, hnamed.2, by simp [hwrite]⟩, hnamed.2, hblank⟩
      | failed => exact .inl ⟨not_not.mp fun h => (hknows.mp h).2.2 hwrite, rfl⟩

theorem stored_updateUsers (submitted : List Submission) (runtime : GSRuntime) :
    let after := submitted.foldl (fun runtime s => runtime.updateUser s.1 s.2) runtime
    runtime.KnowsAll submitted ∧ after.stored = runtime.stored ∨
      ¬ runtime.KnowsAll submitted ∧
        ∃ s ∈ submitted, utf8 s.1.password ≠ [] ∧ Blank s.1 after.stored := by
  induction submitted generalizing runtime with
  | nil => exact .inl ⟨trivial, rfl⟩
  | cons s rest ih =>
    simp only [List.foldl_cons, List.exists_mem_cons_iff, KnowsAll]
    rcases ih (runtime.updateUser s.1 s.2) with ⟨hrest, hsame⟩ | ⟨hrest, hblank⟩
    · rw [hsame]
      rcases stored_updateUser runtime s with ⟨hknows, hstored⟩ | ⟨hknows, hblank⟩
      · exact .inl ⟨⟨hknows, hrest⟩, hstored⟩
      · exact .inr ⟨fun h => hknows h.1, .inl hblank⟩
    · exact .inr ⟨fun h => hrest h.2, .inr hblank⟩

end GSRuntime

theorem stored_removeUnsubmitted (captured : List GSUser) (submitted : List Submission)
    (runtime : GSRuntime) :
    (removeUnsubmitted captured submitted runtime).stored = runtime.stored :=
  List.foldlRecOn (motive := fun after : GSRuntime => after.stored = runtime.stored) _ _ rfl
    fun _ h _ _ => h

/-- Whatever the list in memory and the answers of the store, the page does what it was asked
for exactly if it was asked for nothing and adds no account: the accounts on disk have the
submitted names, flags and passwords already, and those with a password are in memory when
their turn comes. -/
theorem consumption_applied_iff (captured : List GSUser) (submitted : List Submission)
    (runtime : GSRuntime) :
    let users := submitted.map Prod.fst
    let after := gsApiConsumptionPOST captured submitted runtime
    (Applied runtime.stored users after.stored ∧
      Applied runtime.stored users after.loadUsers.authUsers) ↔
      Applied runtime.stored users runtime.stored ∧
        (removeUnsubmitted captured submitted runtime).KnowsAll submitted := by
  unfold gsApiConsumptionPOST
  dsimp only [GSRuntime.loadUsers]
  rw [and_self]
  have hremoved := stored_removeUnsubmitted captured submitted runtime
  rcases GSRuntime.stored_updateUsers submitted (removeUnsubmitted captured submitted runtime) with
    ⟨hknows, hsame⟩ | ⟨hknows, s, hs, hpassword, hblank⟩
  · rw [hsame, hremoved]
    exact (and_iff_left hknows).symm
  · refine iff_of_false (hblank.not_applied (List.mem_map_of_mem hs) hpassword) ?_
    exact fun h => hknows h.2

def guestUpdate : Submission := (⟨"guest", "new password", true⟩, {})

/-- A new password for the guest is not stored. -/
theorem guest_keeps_password :
    let after := gsApiConsumptionPOST [guest] [guestUpdate] ⟨[guest], [guest]⟩
    after.stored = [guest] ∧ guest.base64String ≠ credential "guest" "new password" ∧
      ¬ Applied [guest] [guestUpdate.1] after.stored := by
  have hstored : (gsApiConsumptionPOST [guest] [guestUpdate] ⟨[guest], [guest]⟩).stored =
      [guest] := by decide
  have hother : guest.base64String ≠ credential "guest" "new password" := by decide
  refine ⟨hstored, hother, fun happlied => hother ?_⟩
  exact (happlied.passwords _ List.mem_cons_self (by decide) guest
    (hstored ▸ List.mem_cons_self) rfl _).mpr rfl

end GateSentry.Accounts
