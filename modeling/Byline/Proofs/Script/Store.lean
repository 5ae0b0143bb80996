import Byline.Proofs.Record.Names
import Byline.Proofs.Script.Operations
import Mathlib.Data.List.Forall2

/-!
# The collection under any work

A record is made for a path and changed in a few ways (`Record.Change`); a collection takes records
in, changes one of them or all that a filter covers, and is worked on by the lines of scripts
(`Script.Task`). Whatever is done, and in whatever order, both lists of a record hold each name
once, and the authors that go into its file are their first occurrences (`Record.Sound`).

A record of a collection keeps its path and its type, and none comes in but by being pushed
(`State.continues_handleAll`). Lines of scripts take no record in at all, keep the anchors as well
and only take away from the authors that were found (`State.descends_steps`).
-/

namespace Byline

/-! ## Lists that come from others -/

section Lists

variable {α : Type} {R : α → α → Prop}

theorem sublistForall₂_filterMap {act : α → Option α} (h : ∀ a b, act a = some b → R b a)
    (l : List α) : List.SublistForall₂ R (l.filterMap act) l := by
  induction l with
  | nil => exact .nil
  | cons a l ih =>
    cases ha : act a with
    | none =>
      rw [List.filterMap_cons_none ha]
      exact .cons_right ih
    | some b =>
      rw [List.filterMap_cons_some ha]
      exact .cons (h a b ha) ih

theorem sublistForall₂_modify [Std.Refl R] {f : α → α} {l : List α} (h : ∀ a ∈ l, R (f a) a)
    (i : Nat) : List.SublistForall₂ R (l.modify i f) l := by
  induction l generalizing i with
  | nil =>
    rw [List.modify_nil]
    exact .nil
  | cons a l ih =>
    cases i with
    | zero => exact .cons (h a List.mem_cons_self) (refl l)
    | succ i => exact .cons (refl a) (ih (fun b hb => h b (List.mem_cons_of_mem a hb)) i)

theorem exists_mem_of_mem_modify {f : α → α} {l : List α} {i : Nat} {b : α}
    (h : b ∈ l.modify i f) : ∃ a ∈ l, b = a ∨ b = f a := by
  obtain ⟨j, hj, rfl⟩ := List.mem_iff_getElem.1 h
  have hj' : j < l.length := by simpa using hj
  refine ⟨l[j], List.getElem_mem _, ?_⟩
  rw [List.getElem_modify]
  split
  · exact .inr rfl
  · exact .inl rfl

theorem sublistForall₂_append_right [Std.Refl R] {l l' : List α} (h : List.SublistForall₂ R l l')
    (m : List α) : List.SublistForall₂ R (l ++ m) (l' ++ m) := by
  induction h with
  | nil => exact (List.sublist_append_right _ m).sublistForall₂
  | cons hab _ ih => exact .cons hab ih
  | cons_right _ ih => exact .cons_right ih

end Lists

/-! ## Lists of names -/

/-- Does the list hold each name once, and no empty name? -/
structure Names.Sound (names : List String) : Prop where
  nodup : names.Nodup
  empty_notMem : "" ∉ names

namespace Names.Sound

variable {names : List String}

theorem nil : Sound [] := ⟨List.nodup_nil, List.not_mem_nil⟩

theorem add (h : Sound names) (name : String) : Sound (Names.add names name) := by
  refine ⟨nodup_add h.nodup name, ?_⟩
  intro hm
  rcases mem_add.1 hm with hm | ⟨he, hne⟩
  · exact h.empty_notMem hm
  · exact hne he.symm

theorem filter (h : Sound names) (p : String → Bool) : Sound (names.filter p) :=
  ⟨h.nodup.filter p, fun hm => h.empty_notMem (List.mem_of_mem_filter hm)⟩

theorem addAll (h : Sound names) (more : List String) : Sound (Names.addAll names more) := by
  induction more generalizing names with
  | nil => exact h
  | cons name more ih => exact ih (h.add name)

end Names.Sound

/-! ## Changes of a record -/

/-- A change of a record. -/
inductive Record.Change where
  /-- Names its type, if it has no name yet. -/
  | nameType (name : String)
  /-- Adds an author found in the file. -/
  | addFound (name : String)
  /-- Adds an author that a rule gives. -/
  | addNew (name : String)
  /-- Removes the authors for which `p` holds. -/
  | remove (p : String → Bool)
  /-- Sets the disposition. -/
  | dispose (d : Disposition)
  /-- Sets the anchor. -/
  | place (anchor : Option Nat)
  /-- Notes what was changed by a write. -/
  | note (diff : Option Diff)

namespace Record

/-- The record after a change. -/
def change (r : Record) : Change → Record
  | .nameType name => r.nameType name
  | .addFound name => r.addFound name
  | .addNew name => r.addNew name
  | .remove p => r.dropAuthors p
  | .dispose d => { r with disposition := d }
  | .place anchor => { r with anchor := anchor }
  | .note diff => { r with diff := diff }

/-- The record after changes, one after the other. -/
def changeAll (r : Record) (cs : List Change) : Record := cs.foldl change r

/-- Do both lists of authors hold each name once? -/
structure Sound (r : Record) : Prop where
  authors : Names.Sound r.authors
  newAuthors : Names.Sound r.newAuthors

/-- Is it the other record, as far as its path and its type go? -/
structure Continues (r' r : Record) : Prop where
  path : r'.path = r.path
  typeName : r'.typeName = r.typeName

instance : Std.Refl Continues := ⟨fun _ => ⟨rfl, rfl⟩⟩

instance : IsTrans Record Continues :=
  ⟨fun _ _ _ h h' => ⟨h.path.trans h'.path, h.typeName.trans h'.typeName⟩⟩

variable {r : Record}

theorem Sound.change (h : r.Sound) (c : Change) : (r.change c).Sound := by
  cases c with
  | addFound name => exact ⟨h.authors.add name, h.newAuthors⟩
  | addNew name => exact ⟨h.authors, h.newAuthors.add name⟩
  | remove p => exact ⟨h.authors.filter _, h.newAuthors.filter _⟩
  | nameType | dispose | place | note => exact ⟨h.authors, h.newAuthors⟩

theorem Sound.changeAll (h : r.Sound) (cs : List Change) : (r.changeAll cs).Sound := by
  induction cs generalizing r with
  | nil => exact h
  | cons c cs ih => exact ih (h.change c)

/-- The authors that go into the file of a sound record. -/
theorem Sound.written_eq (h : r.Sound) : r.written = match r.disposition with
    | .merge => (r.authors ++ r.newAuthors).eraseDups
    | .overwrite => r.newAuthors
    | .skip => [] := by
  have hne : "" ∉ r.authors ++ r.newAuthors := by
    rw [List.mem_append, not_or]
    exact ⟨h.authors.empty_notMem, h.newAuthors.empty_notMem⟩
  have hmerge : Names.addAll [] (r.authors ++ r.newAuthors) = [] ++ _ :=
    Names.addAll_eq_append_eraseDups hne
  unfold Record.written
  cases r.disposition with
  | merge => simpa using hmerge
  | overwrite => rfl
  | skip => rfl

theorem Sound.written (h : r.Sound) : Names.Sound r.written := by
  unfold Record.written
  cases r.disposition with
  | merge => exact .addAll .nil _
  | overwrite => exact h.newAuthors
  | skip => exact .nil

theorem continues_change (h : r.typeName.isSome = true) (c : Change) :
    (r.change c).Continues r := by
  cases c with
  | nameType name =>
    obtain ⟨n, hn⟩ := Option.isSome_iff_exists.1 h
    exact ⟨rfl, by simp [change, nameType, hn]⟩
  | _ => exact ⟨rfl, rfl⟩

theorem typeName_changeAll {name : String} (h : r.typeName = some name) (cs : List Change) :
    (r.changeAll cs).typeName = some name := by
  induction cs generalizing r with
  | nil => exact h
  | cons c cs ih =>
    apply ih
    rw [(continues_change (Option.isSome_of_eq_some h) c).typeName, h]

/-- Was the record left by rules? They give and take authors and set the disposition, and of the
authors found in the file none is added. -/
structure Descends (r' r : Record) : Prop extends r'.Continues r where
  anchor : r'.anchor = r.anchor
  authors : r'.authors.Sublist r.authors

instance : Std.Refl Descends := ⟨fun _ => ⟨⟨rfl, rfl⟩, rfl, .refl _⟩⟩

instance : IsTrans Record Descends where
  trans _ _ _ h h' := ⟨IsTrans.trans _ _ _ h.toContinues h'.toContinues,
    h.anchor.trans h'.anchor, h.authors.trans h'.authors⟩

end Record

/-- Does every record have a type, and hold each name once in either list? -/
def Records.Sound (rs : Records) : Prop := ∀ r ∈ rs, r.typeName.isSome = true ∧ r.Sound

namespace Script

/-! ## Work on a collection -/

/-- A piece of work on a collection of records, with a script being interpreted beside it. -/
inductive Task where
  /-- Reads a line of the script. -/
  | line (raw : String)
  /-- Starts another script. -/
  | restart
  /-- Pushes a record that was made for a path and changed. -/
  | push (path : String) (cs : List Record.Change)
  /-- Changes the record at a place. -/
  | change (i : Nat) (c : Record.Change)
  /-- Does an operation on all records that a filter covers. -/
  | operate (op : Operation)

namespace Task

/-- The records that come into the collection. -/
def entering : Task → Records
  | push path cs => Records.push [] (({ path := path } : Record).changeAll cs)
  | _ => []

end Task

namespace State

/-- The state after a piece of work. -/
def handle (s : State) : Task → State
  | .line raw => (s.step raw).1
  | .restart => { records := s.records }
  | .push path cs => { s with records := s.records.push (({ path := path } : Record).changeAll cs) }
  | .change i c => { s with records := s.records.modify i (·.change c) }
  | .operate op => { s with records := op.apply s.records }

/-- The state after work, one piece after the other. -/
def handleAll (s : State) (ts : List Task) : State := ts.foldl handle s

end State

namespace Operation

variable {op : Operation} {r r' : Record}

theorem descends_act (h : op.act r = some r') : r'.Descends r := by
  rcases of_act_eq_some h with rfl | ⟨name, rfl⟩ | ⟨p, rfl⟩ | ⟨d, rfl⟩
  · exact ⟨⟨rfl, rfl⟩, rfl, .refl _⟩
  · exact ⟨⟨rfl, rfl⟩, rfl, .refl _⟩
  · exact ⟨⟨rfl, rfl⟩, rfl, List.filter_sublist⟩
  · exact ⟨⟨rfl, rfl⟩, rfl, .refl _⟩

theorem sound_act (h : op.act r = some r') (hr : r.Sound) : r'.Sound := by
  rcases of_act_eq_some h with rfl | ⟨name, rfl⟩ | ⟨p, rfl⟩ | ⟨d, rfl⟩
  · exact hr
  · exact hr.change (.addNew name)
  · exact hr.change (.remove p)
  · exact hr.change (.dispose d)

theorem sound_apply (op : Operation) {rs : Records} (h : rs.Sound) : (op.apply rs).Sound := by
  intro r' hr'
  rw [op.apply_eq, List.mem_filterMap] at hr'
  obtain ⟨r, hr, hact⟩ := hr'
  obtain ⟨htype, hsound⟩ := h r hr
  exact ⟨(descends_act hact).typeName ▸ htype, sound_act hact hsound⟩

theorem descends_apply (op : Operation) (rs : Records) :
    List.SublistForall₂ Record.Descends (op.apply rs) rs := by
  rw [op.apply_eq]
  exact sublistForall₂_filterMap (fun _ _ => descends_act) rs

end Operation

namespace State

variable {s : State}

theorem sound_handle (h : s.records.Sound) (t : Task) : (s.handle t).records.Sound := by
  cases t with
  | line raw =>
    rw [handle, step_eq]
    exact Operation.sound_apply _ h
  | restart => exact h
  | push path cs =>
    intro r hr
    change r ∈ s.records.push _ at hr
    unfold Records.push at hr
    split at hr
    next htype =>
      rcases List.mem_append.1 hr with hr | hr
      · exact h r hr
      · obtain rfl := List.mem_singleton.1 hr
        exact ⟨htype, Record.Sound.changeAll ⟨.nil, .nil⟩ cs⟩
    next => exact h r hr
  | change i c =>
    intro r' hr'
    obtain ⟨r, hr, hr'⟩ := exists_mem_of_mem_modify hr'
    obtain ⟨htype, hsound⟩ := h r hr
    rcases hr' with rfl | rfl
    · exact ⟨htype, hsound⟩
    · exact ⟨(Record.continues_change htype c).typeName ▸ htype, hsound.change c⟩
  | operate op => exact op.sound_apply h

theorem sound_handleAll (h : s.records.Sound) (ts : List Task) :
    (s.handleAll ts).records.Sound := by
  induction ts generalizing s with
  | nil => exact h
  | cons t ts ih => exact ih (sound_handle h t)

/-- After a piece of work the records are some of those that were there or came in, in order. -/
theorem continues_handle (h : s.records.Sound) (t : Task) :
    List.SublistForall₂ Record.Continues (s.handle t).records (s.records ++ t.entering) := by
  have hoperation (op : Operation) :
      List.SublistForall₂ Record.Continues (op.apply s.records) (s.records ++ []) := by
    rw [List.append_nil, op.apply_eq]
    exact sublistForall₂_filterMap (fun _ _ hact => (Operation.descends_act hact).toContinues) _
  cases t with
  | line raw =>
    rw [handle, step_eq]
    exact hoperation _
  | operate op => exact hoperation op
  | restart => exact (List.sublist_append_left s.records []).sublistForall₂
  | push path cs =>
    change List.SublistForall₂ _ (s.records.push _) (s.records ++ Records.push [] _)
    unfold Records.push
    split
    · exact refl _
    · exact (List.sublist_append_left s.records []).sublistForall₂
  | change i c =>
    change List.SublistForall₂ _ (s.records.modify i _) (s.records ++ [])
    rw [List.append_nil]
    exact sublistForall₂_modify (fun r hr => Record.continues_change (h r hr).1 c) i

theorem continues_handleAll (h : s.records.Sound) (ts : List Task) :
    List.SublistForall₂ Record.Continues (s.handleAll ts).records
      (s.records ++ ts.flatMap Task.entering) := by
  induction ts generalizing s with
  | nil => exact (List.sublist_append_left s.records []).sublistForall₂
  | cons t ts ih =>
    rw [List.flatMap_cons, ← List.append_assoc]
    refine IsTrans.trans _ _ _ (ih (sound_handle h t)) ?_
    exact sublistForall₂_append_right (continues_handle h t) _

/-- Lines take no record in, and change only what rules may change. -/
theorem descends_steps (s : State) (raws : List String) :
    List.SublistForall₂ Record.Descends (s.steps raws).1.records s.records := by
  induction raws generalizing s with
  | nil => exact refl s.records
  | cons raw raws ih =>
    refine IsTrans.trans _ _ _ (ih (s.step raw).1) ?_
    rw [step_eq]
    exact Operation.descends_apply _ s.records

end State

/-- Whatever is done to a collection that starts empty, every record in it has a type and holds each
name once, in either list and in what goes into its file: the first occurrences of both lists, the
second, or nothing. Whatever is done from then on, the records are some of those that were there or
came in, in order, with the path and the type that they had; lines of a script take none in, and
keep the anchors and the order of the authors that were found. The type of a record never changes
once it has a name. -/
theorem handleAll_sound_continues (ts ts' : List Task) (raws : List String) :
    let s := State.handleAll { records := [] } ts
    (∀ r ∈ s.records, r.typeName.isSome = true ∧ Names.Sound r.authors ∧
      Names.Sound r.newAuthors ∧ r.written.Nodup ∧
      r.written = match r.disposition with
        | .merge => (r.authors ++ r.newAuthors).eraseDups
        | .overwrite => r.newAuthors
        | .skip => []) ∧
    List.SublistForall₂ Record.Continues (s.handleAll ts').records
      (s.records ++ ts'.flatMap Task.entering) ∧
    List.SublistForall₂ Record.Descends (s.steps raws).1.records s.records ∧
    ∀ (r : Record) (cs : List Record.Change) (name : String),
      r.typeName = some name → (r.changeAll cs).typeName = some name := by
  intro s
  have hsound : s.records.Sound := State.sound_handleAll (fun r hr => absurd hr List.not_mem_nil) ts
  refine ⟨?_, State.continues_handleAll hsound ts', State.descends_steps s raws,
    fun r cs name h => Record.typeName_changeAll h cs⟩
  intro r hr
  obtain ⟨htype, hr⟩ := hsound r hr
  exact ⟨htype, hr.authors, hr.newAuthors, hr.written.nodup, hr.written_eq⟩

/-- A record with an author found twice, and two that were given, one of them found as well. -/
def repeatedTasks : List Task :=
  [.push "p/A.java" [.nameType "p.A", .addFound "x", .addFound "y", .addFound "x"],
    .push "p/B.java" [], .change 0 (.nameType "q.C"), .change 0 (.addNew "y"),
    .change 0 (.addNew "z"), .change 0 (.addNew "")]

theorem handleAll_sound_continues_repeated :
    let r : Record := ⟨"p/A.java", some "p.A", ["x", "y"], ["y", "z"], .merge, none, none⟩
    r ∈ (State.handleAll { records := [] } repeatedTasks).records ∧ r.written.Nodup ∧
      r.written = ["x", "y", "z"] := by
  intro r
  have hr : r ∈ (State.handleAll { records := [] } repeatedTasks).records := by decide
  obtain ⟨-, -, -, hnodup, hwritten⟩ := (handleAll_sound_continues repeatedTasks [] []).1 r hr
  exact ⟨hr, hnodup, hwritten.trans (by decide)⟩

end Script

end Byline
