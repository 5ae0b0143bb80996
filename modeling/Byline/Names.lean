/-!
# Lists of names

A list of names holds each name once, and no empty name. `Names.add` keeps that so: its members are
those of the list and the name, unless that is empty (`Names.mem_add`), and it repeats none
(`Names.nodup_add`).
-/

namespace Byline.Names

/-- Is the name not empty and not in the list? -/
def lacks (names : List String) (name : String) : Bool := !name.isEmpty && !names.contains name

/-- The list with the name at its end, if it lacks it. -/
def add (names : List String) (name : String) : List String :=
  if lacks names name then names ++ [name] else names

/-- The list with the names at its end, one after the other, each if the list lacks it by then. -/
def addAll (names more : List String) : List String := more.foldl add names

/-- What it is to lack a name. -/
theorem lacks_iff {names : List String} {name : String} :
    lacks names name = true ↔ name ≠ "" ∧ name ∉ names := by
  simp [lacks]

/-- The members of a list to which a name was added. -/
theorem mem_add {names : List String} {name x : String} :
    x ∈ add names name ↔ x ∈ names ∨ x = name ∧ name ≠ "" := by
  unfold add
  split
  next h =>
    have := (lacks_iff.1 h).1
    simp [this]
  next h =>
    have h (hne : name ≠ "") : name ∈ names :=
      Decidable.byContradiction fun hn => h (lacks_iff.2 ⟨hne, hn⟩)
    exact ⟨.inl, fun hx => hx.elim id fun ⟨hx, hne⟩ => hx ▸ h hne⟩

/-- Adding a name repeats none. -/
theorem nodup_add {names : List String} (h : names.Nodup) (name : String) :
    (add names name).Nodup := by
  unfold add
  split
  next hl =>
    have hn := (lacks_iff.1 hl).2
    simpa [List.nodup_append, h] using fun x hx (e : x = name) => hn (e ▸ hx)
  next => exact h

/-- The members of a list to which names were added. -/
theorem mem_addAll {names more : List String} {x : String} :
    x ∈ addAll names more ↔ x ∈ names ∨ x ∈ more ∧ x ≠ "" := by
  induction more generalizing names with
  | nil => simp [addAll]
  | cons n more ih =>
    have := @ih (add names n)
    rw [addAll, List.foldl_cons, ← addAll, this, mem_add, List.mem_cons]
    constructor
    · rintro ((h | ⟨rfl, h⟩) | ⟨h, hne⟩)
      · exact .inl h
      · exact .inr ⟨.inl rfl, h⟩
      · exact .inr ⟨.inr h, hne⟩
    · rintro (h | ⟨rfl | h, hne⟩)
      · exact .inl (.inl h)
      · exact .inl (.inr ⟨rfl, hne⟩)
      · exact .inr ⟨h, hne⟩

/-- Adding names repeats none. -/
theorem nodup_addAll {names : List String} (h : names.Nodup) (more : List String) :
    (addAll names more).Nodup := by
  induction more generalizing names with
  | nil => exact h
  | cons n more ih => exact ih (nodup_add h n)

end Byline.Names
