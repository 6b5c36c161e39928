import GateSentry.Foundation.CaseTable

/-!
# Go string functions

The functions of Go's `strings` package that the gateway uses, on Lean strings.
A Go string that carries text is modelled as its sequence of code points; the
places where bytes matter use `List UInt8` instead.
-/

namespace GateSentry.Foundation.Strings

/-! ## Lists -/

section Lists

variable {α : Type} [DecidableEq α]

def occurs (part : List α) : List α → Bool
  | [] => part.isEmpty
  | item :: rest => part.isPrefixOf (item :: rest) || occurs part rest

def pieces (separator : α) : List α → List (List α)
  | [] => [[]]
  | item :: rest =>
    if item = separator then [] :: pieces separator rest
    else
      match pieces separator rest with
      | [] => [[item]]
      | first :: others => (item :: first) :: others

def cut (separator : α) : List α → Option (List α × List α)
  | [] => none
  | item :: rest =>
    if item = separator then some ([], rest)
    else (cut separator rest).map fun (before, after) => (item :: before, after)

variable (separator : α)

theorem cut_append {before : List α} (h : separator ∉ before) (after : List α) :
    cut separator (before ++ separator :: after) = some (before, after) := by
  induction before with
  | nil => simp [cut]
  | cons item before ih =>
    simp only [List.mem_cons, not_or] at h
    rw [List.cons_append, cut, if_neg (fun heq => h.1 heq.symm), ih h.2]
    rfl

theorem exists_cut (before after : List α) :
    ∃ parts, cut separator (before ++ separator :: after) = some parts := by
  induction before with
  | nil => exact ⟨([], after), by simp [cut]⟩
  | cons item before ih =>
    obtain ⟨parts, hparts⟩ := ih
    by_cases hitem : item = separator
    · exact ⟨([], before ++ separator :: after), by simp [cut, hitem]⟩
    · exact ⟨(item :: parts.1, parts.2), by simp [cut, hitem, hparts]⟩

theorem eq_append_of_cut {separator : α} {items before after : List α}
    (h : cut separator items = some (before, after)) :
    items = before ++ separator :: after ∧ separator ∉ before := by
  induction items generalizing before with
  | nil => exact nomatch h
  | cons item rest ih =>
    rw [cut] at h
    split at h
    · rename_i hitem
      cases h
      simp [hitem]
    · rename_i hitem
      obtain ⟨⟨front, back⟩, hcut, heq⟩ := Option.map_eq_some_iff.mp h
      cases heq
      obtain ⟨rfl, hfront⟩ := ih hcut
      refine ⟨rfl, ?_⟩
      rw [List.mem_cons, not_or]
      exact ⟨fun heq => hitem heq.symm, hfront⟩

theorem occurs_iff_isInfix (part items : List α) : occurs part items = true ↔ part <:+: items := by
  induction items with
  | nil => simp [occurs]
  | cons item rest ih => simp [occurs, ih, List.infix_cons_iff]

theorem pieces_ne_nil (items : List α) : pieces separator items ≠ [] := by
  cases items with
  | nil => simp [pieces]
  | cons item rest =>
    rw [pieces]
    split
    · simp
    · split <;> simp

theorem pieces_append {front : List α} (h : separator ∉ front) (rest : List α) :
    pieces separator (front ++ separator :: rest) = front :: pieces separator rest := by
  induction front with
  | nil => simp [pieces]
  | cons item front ih =>
    simp only [List.mem_cons, not_or] at h
    rw [List.cons_append, pieces, if_neg (fun heq => h.1 heq.symm), ih h.2]

theorem pieces_head (items : List α) :
    (pieces separator items)[0]? = some (items.takeWhile (· ≠ separator)) := by
  induction items with
  | nil => rfl
  | cons item rest ih =>
    rw [pieces]
    by_cases hitem : item = separator
    · simp [hitem]
    · cases hpieces : pieces separator rest with
      | nil => exact absurd hpieces (pieces_ne_nil separator rest)
      | cons first others =>
        rw [hpieces] at ih
        simp only [List.getElem?_cons_zero, Option.some.injEq] at ih
        simp [hitem, ih]

end Lists

section Infixes

variable {α : Type}

theorem isInfix_append_cons_iff {separator : α} {part : List α} (h : separator ∉ part)
    (front back : List α) :
    part <:+: front ++ separator :: back ↔ part <:+: front ∨ part <:+: back := by
  constructor
  · rintro ⟨left, right, heq⟩
    rcases List.append_eq_append_iff.mp heq with ⟨more, hfront, -⟩ | ⟨excess, hleft, hback⟩
    · exact .inl ⟨left, more, hfront.symm⟩
    · cases excess with
      | nil => exact .inl ⟨left, [], by simpa using hleft⟩
      | cons first excess =>
        obtain ⟨rfl, hrest⟩ := List.cons.inj hback
        rcases List.append_eq_append_iff.mp hleft with ⟨gap, -, hgap⟩ | ⟨gap, -, hgap⟩
        · exact absurd (by rw [hgap]; simp) h
        · cases gap with
          | nil =>
            have hpart : part = separator :: excess := by simpa using hgap.symm
            exact absurd (by rw [hpart]; simp) h
          | cons first gap =>
            obtain ⟨-, hover⟩ := List.cons.inj hgap
            refine .inr ⟨gap, right, ?_⟩
            rw [hrest, hover]
            rfl
  · rintro (hfront | hback)
    · exact hfront.trans (List.prefix_append _ _).isInfix
    · exact (hback.trans (List.suffix_cons _ _).isInfix).trans (List.suffix_append _ _).isInfix

theorem cons_isInfix_append_cons_iff {separator : α} {part : List α} (h : separator ∉ part)
    (front back : List α) :
    separator :: part <:+: front ++ separator :: back ↔
      separator :: part <:+: front ∨ separator :: part <:+: separator :: back := by
  constructor
  · rintro ⟨left, right, heq⟩
    rw [List.append_assoc] at heq
    rcases List.append_eq_append_iff.mp heq with ⟨more, hfront, hmore⟩ | ⟨excess, hleft, hback⟩
    · cases more with
      | nil => exact .inr ⟨[], right, by simpa using hmore⟩
      | cons first more =>
        obtain ⟨rfl, hrest⟩ := List.cons.inj hmore
        rcases List.append_eq_append_iff.mp hrest with ⟨gap, hpart, -⟩ | ⟨gap, hpart, hgap⟩
        · exact .inl ⟨left, gap, by rw [hfront, hpart]; simp⟩
        · cases gap with
          | nil => exact .inl ⟨left, [], by rw [hfront]; simp [hpart]⟩
          | cons first gap =>
            obtain ⟨rfl, -⟩ := List.cons.inj hgap
            exact absurd (by rw [hpart]; simp) h
    · exact .inr ⟨excess, right, by rw [hback, List.append_assoc]⟩
  · rintro (hfront | hback)
    · exact hfront.trans (List.prefix_append _ _).isInfix
    · exact hback.trans (List.suffix_append _ _).isInfix

end Infixes

/-! ## The package's functions -/

def toLower (s : String) : String := String.ofList (s.toList.map runeToLower)

end GateSentry.Foundation.Strings
