import Byline.Storage.Tree.Frame
import Mathlib.Data.List.Basic
import Mathlib.Logic.Function.Basic

/-!
# Nodes of a tree

A tree seen from outside is a function: each place, a list of names, has a file with its octets, a
directory, or nothing (`Tree.nodeAt?`). The order of entries does not show. Putting a file into a
directory changes that function at one place (`nodeAt?_put_file`), and so does removing a file
(`nodeAt?_erase_file`); with a directory, all that is below the place changes with it
(`nodeAt?_put`, `nodeAt?_erase`).
-/

namespace Byline

/-- What stands at a place: a file with its octets, or a directory, whatever it holds. -/
inductive Node where
  | file (content : Utf8.Bytes)
  | dir
  deriving DecidableEq, Repr

namespace Tree

/-- What stands at the top of a tree. -/
def node : Tree → Node
  | .file b => .file b
  | .dir _ => .dir

/-- What stands at a place of a tree. -/
def nodeAt? (t : Tree) (place : List String) : Option Node := (t.at? place).map node

variable {t u : Tree} {place q : List String} {name : String} {b : Utf8.Bytes}

@[simp]
theorem nodeAt?_nil (t : Tree) : t.nodeAt? [] = some t.node := by
  cases t <;> rfl

theorem nodeAt?_file_cons (b : Utf8.Bytes) (n : String) (q : List String) :
    (file b).nodeAt? (n :: q) = none := rfl

theorem nodeAt?_dir_cons (es : List (String × Tree)) (n : String) (q : List String) :
    (dir es).nodeAt? (n :: q) = (es.lookup n).bind (·.nodeAt? q) := by
  rw [nodeAt?, at?_dir_cons]
  cases es.lookup n <;> rfl

theorem at?_append (t : Tree) (p q : List String) : t.at? (p ++ q) = (t.at? p).bind (·.at? q) := by
  induction p generalizing t with
  | nil => cases t <;> rfl
  | cons n p ih =>
    cases t with
    | file b => rfl
    | dir es =>
      rw [List.cons_append, at?_dir_cons, at?_dir_cons]
      cases es.lookup n with
      | none => rfl
      | some u => exact ih u

theorem nodeAt?_append (t : Tree) (p q : List String) :
    t.nodeAt? (p ++ q) = (t.at? p).bind (·.nodeAt? q) := by
  rw [nodeAt?, at?_append]
  cases t.at? p <;> rfl

theorem nodeAt?_eq_file : t.nodeAt? place = some (.file b) ↔ t.at? place = some (.file b) := by
  cases h : t.at? place with
  | none => simp [nodeAt?, h]
  | some u => cases u <;> simp [nodeAt?, h, node]

theorem nodeAt?_eq_dir : t.nodeAt? place = some .dir ↔ ∃ es, t.at? place = some (.dir es) := by
  cases h : t.at? place with
  | none => simp [nodeAt?, h]
  | some u => cases u <;> simp [nodeAt?, h, node]

theorem nodeAt?_eq_none : t.nodeAt? place = none ↔ t.at? place = none := Option.map_eq_none_iff

/-- Above anything there is a directory. -/
theorem nodeAt?_of_append (hq : q ≠ []) (h : t.nodeAt? (place ++ q) ≠ none) :
    t.nodeAt? place = some .dir := by
  rw [nodeAt?_append] at h
  cases hp : t.at? place with
  | none => simp [hp] at h
  | some u =>
    cases u with
    | dir es => exact nodeAt?_eq_dir.2 ⟨es, hp⟩
    | file b =>
      obtain ⟨n, q, rfl⟩ := List.exists_cons_of_ne_nil hq
      simp [hp, nodeAt?_file_cons] at h

/-- Below a file, or below nothing, there is nothing. -/
theorem nodeAt?_append_eq_none (hq : q ≠ []) (h : t.nodeAt? place ≠ some .dir) :
    t.nodeAt? (place ++ q) = none := by
  by_contra hne
  exact h (nodeAt?_of_append hq hne)

/-! ## Putting -/

/-- A tree that is put into a directory shows at its place and below it, and nowhere else. -/
theorem nodeAt?_put (h : t.nodeAt? place = some .dir) (name : String) (u : Tree) (q : List String) :
    (t.put (place ++ [name]) u).nodeAt? q =
      if place ++ [name] <+: q then u.nodeAt? (q.drop (place ++ [name]).length)
      else t.nodeAt? q := by
  induction place generalizing t q with
  | nil =>
    cases t with
    | file b => simp [node] at h
    | dir es =>
      cases q with
      | nil => simp [put, node]
      | cons m q =>
        rw [List.nil_append, put, nodeAt?_dir_cons]
        by_cases hm : m = name
        · subst hm
          simp [lookup_putEntry_self, put]
        · have hne : ¬ name = m := fun e => hm e.symm
          rw [lookup_putEntry_of_ne hm, if_neg (by simpa using hne), nodeAt?_dir_cons]
  | cons n place ih =>
    cases t with
    | file b => simp [nodeAt?_file_cons] at h
    | dir es =>
      rw [nodeAt?_dir_cons] at h
      cases hl : es.lookup n with
      | none => simp [hl] at h
      | some v =>
        rw [hl, Option.bind_some] at h
        cases q with
        | nil => simp [put, node]
        | cons m q =>
          rw [List.cons_append, put, nodeAt?_dir_cons, hl, Option.getD_some]
          by_cases hm : m = n
          · subst hm
            rw [lookup_putEntry_self, Option.bind_some, ih h, nodeAt?_dir_cons, hl]
            simp [List.cons_prefix_cons]
          · have hne : ¬ n = m := fun e => hm e.symm
            rw [lookup_putEntry_of_ne hm, if_neg (by simp [List.cons_prefix_cons, hne]),
              nodeAt?_dir_cons]

/-- Where no directory stands, putting a file into a directory changes one place. -/
theorem nodeAt?_put_file (h : t.nodeAt? place = some .dir)
    (hd : t.nodeAt? (place ++ [name]) ≠ some .dir) (b : Utf8.Bytes) :
    (t.put (place ++ [name]) (.file b)).nodeAt? =
      Function.update t.nodeAt? (place ++ [name]) (some (.file b)) := by
  funext q
  rw [nodeAt?_put h]
  by_cases hq : place ++ [name] <+: q
  · obtain ⟨r, rfl⟩ := hq
    rw [if_pos (List.prefix_append _ r), List.drop_left]
    cases r with
    | nil => simp [node]
    | cons m r =>
      rw [Function.update_of_ne (by simp), nodeAt?_file_cons,
        nodeAt?_append_eq_none (List.cons_ne_nil m r) hd]
  · have hne : q ≠ place ++ [name] := by
      rintro rfl
      exact hq List.prefix_rfl
    rw [if_neg hq, Function.update_of_ne hne]

/-! ## Removing -/

/-- What is removed is gone with all below it, and nothing else. -/
theorem nodeAt?_erase (hp : place ≠ []) (t : Tree) (q : List String) :
    (t.erase place).nodeAt? q = if place <+: q then none else t.nodeAt? q := by
  induction place generalizing t q with
  | nil => exact absurd rfl hp
  | cons n place ih =>
    cases t with
    | file b =>
      cases q with
      | nil => simp [erase]
      | cons m q => simp [erase, nodeAt?_file_cons]
    | dir es =>
      cases q with
      | nil =>
        cases place with
        | nil => simp [erase, node]
        | cons k place => cases hl : es.lookup n <;> simp [erase_dir_cons_cons, hl, node]
      | cons m q =>
        cases place with
        | nil =>
          rw [erase, nodeAt?_dir_cons, nodeAt?_dir_cons]
          by_cases hm : m = n
          · subst hm
            simp [lookup_eraseEntry_self]
          · have hne : ¬ n = m := fun e => hm e.symm
            rw [lookup_eraseEntry_of_ne hm, if_neg (by simpa using hne)]
        | cons k place =>
          rw [erase_dir_cons_cons]
          by_cases hm : m = n
          · subst hm
            cases hl : es.lookup m with
            | none => simp [nodeAt?_dir_cons, hl]
            | some v =>
              simp only [nodeAt?_dir_cons, lookup_putEntry_self, Option.bind_some, hl,
                ih (List.cons_ne_nil k place), List.cons_prefix_cons, true_and]
          · have hne : ¬ n = m := fun e => hm e.symm
            rw [if_neg (by simp [List.cons_prefix_cons, hne])]
            cases hl : es.lookup n with
            | none => rfl
            | some v => simp only [nodeAt?_dir_cons, lookup_putEntry_of_ne hm]

/-- Removing what is not a directory changes one place. -/
theorem nodeAt?_erase_file (hp : place ≠ []) (hd : t.nodeAt? place ≠ some .dir) :
    (t.erase place).nodeAt? = Function.update t.nodeAt? place none := by
  funext q
  rw [nodeAt?_erase hp]
  by_cases hq : place <+: q
  · obtain ⟨r, rfl⟩ := hq
    rw [if_pos (List.prefix_append place r)]
    cases r with
    | nil => simp
    | cons m r =>
      rw [Function.update_of_ne (by simp), nodeAt?_append_eq_none (List.cons_ne_nil m r) hd]
  · have hne : q ≠ place := by
      rintro rfl
      exact hq List.prefix_rfl
    rw [if_neg hq, Function.update_of_ne hne]

/-! ## Proper trees -/

theorem proper_dir_iff {es : List (String × Tree)} :
    Proper (dir es) ↔
      (es.map (·.1)).Nodup ∧ (∀ e ∈ es, IsName e.1) ∧ ∀ e ∈ es, Proper e.2 := by
  constructor
  · rintro (_ | ⟨hd, hn, hb⟩)
    exact ⟨hd, hn, hb⟩
  · rintro ⟨hd, hn, hb⟩
    exact .dir hd hn hb

instance (n : String) : Decidable (IsName n) := inferInstanceAs (Decidable (_ ∧ _))

mutual

def decideProper : (t : Tree) → Decidable t.Proper
  | .file b => isTrue (.file b)
  | .dir es =>
    have := decideBelow es
    decidable_of_iff _ proper_dir_iff.symm

def decideBelow : (es : List (String × Tree)) → Decidable (∀ e ∈ es, Proper e.2)
  | [] => isTrue (by simp)
  | (n, t) :: es =>
    have := decideProper t
    have := decideBelow es
    decidable_of_iff (t.Proper ∧ ∀ e ∈ es, Proper e.2) (by simp)

end

instance : DecidablePred Proper := decideProper

theorem mem_of_lookup {es : List (String × Tree)} {n : String} (h : es.lookup n = some t) :
    (n, t) ∈ es := by
  induction es with
  | nil => simp at h
  | cons e es ih =>
    obtain ⟨m, v⟩ := e
    rw [List.lookup_cons] at h
    by_cases hm : n = m
    · subst hm
      obtain rfl : v = t := by simpa using h
      exact List.mem_cons_self
    · have hb : (n == m) = false := by simpa using hm
      rw [hb] at h
      exact List.mem_cons_of_mem _ (ih h)

theorem Proper.of_lookup {es : List (String × Tree)} {n : String} (h : (Tree.dir es).Proper)
    (hl : es.lookup n = some t) : Proper t :=
  (proper_dir_iff.1 h).2.2 _ (mem_of_lookup hl)

theorem Proper.of_at? (h : Proper t) {place : List String} (hu : t.at? place = some u) :
    Proper u := by
  induction place generalizing t with
  | nil =>
    cases t <;> exact Option.some.inj hu ▸ h
  | cons n place ih =>
    cases t with
    | file b => simp [at?] at hu
    | dir es =>
      rw [at?_dir_cons] at hu
      obtain ⟨v, hv, hu⟩ := Option.bind_eq_some_iff.1 hu
      exact ih (h.of_lookup hv) hu

theorem map_fst_putEntry (n : String) (t : Tree) (es : List (String × Tree)) :
    (putEntry n t es).map (·.1) =
      if n ∈ es.map (·.1) then es.map (·.1) else es.map (·.1) ++ [n] := by
  induction es with
  | nil => simp [putEntry]
  | cons e es ih =>
    obtain ⟨m, u⟩ := e
    by_cases hm : m = n
    · subst hm
      simp [putEntry]
    · have hne : ¬ n = m := fun e => hm e.symm
      rw [putEntry, if_neg hm, List.map_cons, ih]
      split_ifs <;> simp_all

theorem mem_putEntry {n : String} {e : String × Tree} {es : List (String × Tree)}
    (h : e ∈ putEntry n t es) : e = (n, t) ∨ e ∈ es := by
  induction es with
  | nil => exact .inl (by simpa [putEntry] using h)
  | cons f es ih =>
    obtain ⟨m, u⟩ := f
    rw [putEntry] at h
    split at h
    · rcases List.mem_cons.1 h with h | h
      · exact .inl h
      · exact .inr (List.mem_cons_of_mem _ h)
    · rcases List.mem_cons.1 h with rfl | h
      · exact .inr List.mem_cons_self
      · exact (ih h).imp id (List.mem_cons_of_mem _)

theorem Proper.putEntry {es : List (String × Tree)} {n : String} (h : (Tree.dir es).Proper)
    (hn : IsName n) (ht : Proper t) : (Tree.dir (Tree.putEntry n t es)).Proper := by
  obtain ⟨hd, hnames, hb⟩ := proper_dir_iff.1 h
  refine .dir ?_ ?_ ?_
  · rw [map_fst_putEntry]
    split_ifs with hmem
    · exact hd
    · refine List.nodup_append.2 ⟨hd, by simp, ?_⟩
      rintro x hx y hy rfl
      exact hmem (List.mem_singleton.1 hy ▸ hx)
  · intro e he
    rcases mem_putEntry he with rfl | he
    · exact hn
    · exact hnames e he
  · intro e he
    rcases mem_putEntry he with rfl | he
    · exact ht
    · exact hb e he

theorem Proper.put (ht : Proper t) (hu : Proper u) {place : List String}
    (hn : ∀ n ∈ place, IsName n) : Proper (t.put place u) := by
  induction place generalizing t with
  | nil => exact hu
  | cons n place ih =>
    cases t with
    | file b => exact ht
    | dir es =>
      refine ht.putEntry (hn n List.mem_cons_self) (ih ?_ fun m hm => hn m (List.mem_cons_of_mem n hm))
      cases hl : es.lookup n with
      | none => exact .dir List.nodup_nil (by simp) (by simp)
      | some v => exact ht.of_lookup hl

theorem Proper.erase (ht : Proper t) (place : List String) : Proper (t.erase place) := by
  induction place generalizing t with
  | nil =>
    cases t <;> exact ht
  | cons n place ih =>
    cases t with
    | file b => exact ht
    | dir es =>
      obtain ⟨hd, hnames, hb⟩ := proper_dir_iff.1 ht
      cases place with
      | nil =>
        have hsub : (eraseEntry n es).Sublist es := List.filter_sublist
        exact .dir ((hsub.map _).nodup hd) (fun e he => hnames e (hsub.subset he))
          fun e he => hb e (hsub.subset he)
      | cons k place =>
        rw [erase_dir_cons_cons]
        cases hl : es.lookup n with
        | none => exact ht
        | some v =>
          exact ht.putEntry (hnames _ (mem_of_lookup hl)) (ih (ht.of_lookup hl))

end Tree

end Byline
