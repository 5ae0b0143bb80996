import Byline.Storage.Tree

/-!
# What a change of a directory leaves alone

An entry that was put is found under its name, an entry that was erased is not, and the entries of
other names are as before. Looking up a path and removing what is at it go through the entry that
the path starts with (`Tree.at?_dir_cons`, `Tree.erase_dir_cons_cons`).
-/

namespace Byline

namespace Tree

/-- Looking up the name that was put gives the tree that was put. -/
theorem lookup_putEntry_self (n : String) (t : Tree) (es : List (String × Tree)) :
    (putEntry n t es).lookup n = some t := by
  induction es with
  | nil => simp [putEntry]
  | cons e es ih =>
    obtain ⟨m, u⟩ := e
    by_cases h : m = n
    · simp [putEntry, h]
    · have h' : (n == m) = false := by simpa using fun e => h e.symm
      simp [putEntry, h, List.lookup_cons, h', ih]

/-- Putting an entry changes no entry of another name. -/
theorem lookup_putEntry_of_ne {n m : String} (h : m ≠ n) (t : Tree) (es : List (String × Tree)) :
    (putEntry n t es).lookup m = es.lookup m := by
  have h' : (m == n) = false := by simpa using h
  induction es with
  | nil => simp [putEntry, List.lookup_cons, h']
  | cons e es ih =>
    obtain ⟨k, u⟩ := e
    by_cases hk : k = n
    · subst hk
      simp [putEntry, List.lookup_cons, h']
    · simp only [putEntry, hk, if_false, List.lookup_cons, ih]

/-- No entry has a name that was erased. -/
theorem lookup_eraseEntry_self (n : String) (es : List (String × Tree)) :
    (eraseEntry n es).lookup n = none := by
  induction es with
  | nil => rfl
  | cons e es ih =>
    obtain ⟨m, u⟩ := e
    by_cases h : m = n
    · simpa [eraseEntry, h] using ih
    · have h' : (n == m) = false := by simpa using fun e => h e.symm
      have hb : (m != n) = true := by simpa using h
      simpa [eraseEntry, hb, List.lookup_cons, h'] using ih

/-- Erasing an entry changes no entry of another name. -/
theorem lookup_eraseEntry_of_ne {n m : String} (h : m ≠ n) (es : List (String × Tree)) :
    (eraseEntry n es).lookup m = es.lookup m := by
  induction es with
  | nil => rfl
  | cons e es ih =>
    obtain ⟨k, u⟩ := e
    by_cases hk : k = n
    · subst hk
      have h' : (m == k) = false := by simpa using h
      simpa [eraseEntry, List.lookup_cons, h'] using ih
    · have hb : (k != n) = true := by simpa using hk
      simp only [eraseEntry, List.filter_cons, hb, if_true, List.lookup_cons] at ih ⊢
      rw [ih]

/-- Below a directory there is what is below its entry. -/
theorem at?_dir_cons (es : List (String × Tree)) (n : String) (p : List String) :
    (dir es).at? (n :: p) = (es.lookup n).bind (·.at? p) := by
  rw [at?]
  cases es.lookup n <;> rfl

/-- Removing what is below an entry removes it from that entry. -/
theorem erase_dir_cons_cons (es : List (String × Tree)) (n k : String) (p : List String) :
    (dir es).erase (n :: k :: p) =
      match es.lookup n with
      | none => .dir es
      | some t => .dir (putEntry n (t.erase (k :: p)) es) := by
  cases h : es.lookup n <;> simp [erase, h]

end Tree

end Byline
