import Byline.Proofs.Storage.Sources
import Mathlib.Data.List.DropRight

/-!
# What one operation changes

An operation on a disk that succeeds changes files at the places that its paths lead to, and no
directory: `Disk.OnlyAt` says so for a list of paths, and goes through a sequence of operations. A
path that leads to a file has a seat (`Disk.exists_seat`), whatever the path looks like. Only moving
a directory changes more, and all of that is in `Disk.Moved`.
-/

namespace Byline

namespace Path

variable {base name path suf : String}

/-- What is above the last part of a path: nothing, or a text with a slash at its end. -/
def IsBase (base : String) : Prop := base = "" ∨ endsWithSlash base = true

theorem exists_base (path : String) :
    ∃ base name, path = base ++ name ∧ IsBase base ∧ '/' ∉ name.toList := by
  refine ⟨String.ofList (path.toList.rdropWhile (· != '/')),
    String.ofList (path.toList.rtakeWhile (· != '/')), ?_, ?_, ?_⟩
  · rw [← String.ofList_append, List.rdropWhile_append_rtakeWhile, String.ofList_toList]
  · by_cases h : path.toList.rdropWhile (· != '/') = []
    · exact .inl (by rw [h])
    · have hlast : (path.toList.rdropWhile (· != '/')).getLast h = '/' := by
        simpa using List.rdropWhile_last_not (· != '/') _ h
      refine .inr ?_
      rw [endsWithSlash, String.toList_ofList, List.getLast?_eq_getLast_of_ne_nil h, hlast]
      rfl
  · intro hm
    rw [String.toList_ofList] at hm
    exact absurd (List.mem_rtakeWhile_imp hm) (by simp)

theorem IsBase.join_eq (h : IsBase base) (hs : '/' ∉ name.toList) : join base name = base ++ name := by
  rw [join, isAbsolute_of_notMem hs, if_neg Bool.false_ne_true]
  rcases h with rfl | h
  · rfl
  · rw [h, Bool.or_true, if_pos rfl]

/-- A path without any part is the root. -/
theorem isAbsolute_of_parts_eq_nil (hne : path ≠ "") (h : parts path = []) :
    isAbsolute path = true := by
  have hl : path.toList ≠ [] := by simpa using hne
  obtain ⟨c, s, hcs⟩ := List.exists_cons_of_ne_nil hl
  rw [isAbsolute, hcs]
  by_contra hc
  have hc' : c ≠ '/' := by simpa using hc
  rw [parts, hcs, pieces, if_neg hc'] at h
  cases hp : pieces s with
  | nil => exact pieces_ne_nil s hp
  | cons p ps => simp [hp] at h

end Path

namespace Disk

variable {d d' d'' : Disk} {root : Tree} {place p q : List String} {path name suf : String}
  {b : Utf8.Bytes} {t : Tree}

/-! ## Where paths lead -/

/-- Above a directory there is a directory. -/
theorem nodeAt?_dropLast (h : root.nodeAt? place = some .dir) :
    root.nodeAt? place.dropLast = some .dir := by
  rcases List.eq_nil_or_concat place with rfl | ⟨init, n, rfl⟩
  · exact h
  · rw [List.concat_eq_append] at h ⊢
    rw [List.dropLast_concat]
    exact Tree.nodeAt?_of_append (List.cons_ne_nil n []) (h ▸ Option.some_ne_none _)

/-- The last part of a path that does not lead to a directory is a name in a directory. -/
theorem exists_dir_of_walk {parts : List String} (hp : root.nodeAt? p ≠ some .dir)
    (h : walk root place (parts ++ [name]) = .ok p) :
    ∃ dir, walk root place parts = .ok dir ∧ root.nodeAt? dir = some .dir ∧ name ≠ "." ∧
      name ≠ ".." ∧ p = dir ++ [name] := by
  rw [walk_append] at h
  cases hdir : walk root place parts with
  | error c => simp [hdir, Except.bind] at h
  | ok dir =>
    rw [hdir] at h
    change walk root dir [name] = .ok p at h
    have henter : p = enter dir name := eq_of_walk h
    rw [walk_cons] at h
    have hnode : root.nodeAt? dir = some .dir := by
      split at h
      · simp at h
      · simp at h
      · assumption
    have hdot : name ≠ "." := by
      rintro rfl
      exact hp (henter ▸ hnode)
    have hdots : name ≠ ".." := by
      rintro rfl
      exact hp (henter ▸ nodeAt?_dropLast hnode)
    refine ⟨dir, rfl, hnode, hdot, hdots, ?_⟩
    rw [henter, enter, if_neg hdot, if_neg hdots]

/-- A path has a seat if it does not lead to a directory, be there a file or nothing. -/
theorem exists_seat (hl : d.locate path = .ok p) (hs : Path.endsWithSlash path = false)
    (hp : d.root.nodeAt? p ≠ some .dir) : ∃ s, d.Seats s ∧ s.path = path ∧ p = s.place "" := by
  obtain ⟨hne, hnul, hlen, hw⟩ := locate_eq_ok.1 hl
  obtain ⟨base, name, rfl, hbase, hname⟩ := Path.exists_base path
  have hne' : name ≠ "" := by
    rintro rfl
    rw [String.append_empty] at hne hs
    rcases hbase with rfl | hbase
    · exact hne rfl
    · rw [hbase] at hs
      exact Bool.false_ne_true hs.symm
  rw [← hbase.join_eq hname] at hw hnul ⊢
  rw [Path.parts_join_of_ne hne' hname] at hw
  obtain ⟨dir, hwalk, hdir, hdot, hdots, rfl⟩ := exists_dir_of_walk hp hw
  have hisName : Tree.IsName name := ⟨hne', hname, hdot, hdots⟩
  rw [start_join hisName] at hwalk
  refine ⟨⟨Path.join base name, dir, name⟩, ⟨hisName, hnul, hdir, base, rfl, hwalk⟩, rfl, ?_⟩
  rw [Seat.place, String.append_empty]

theorem exists_seat_of_node? (h : d.node? path = some (.file b)) :
    ∃ s, d.Seats s ∧ s.path = path := by
  obtain ⟨p, hl, hn, hs⟩ := node?_eq_some.1 h
  have hslash : Path.endsWithSlash path = false := by
    by_contra hc
    exact absurd (hs (by simpa using hc)) (by simp)
  obtain ⟨s, hseat, hpath, -⟩ := exists_seat hl hslash (by simp [hn])
  exact ⟨s, hseat, hpath⟩

/-- Where nothing is found, a directory could hold something. -/
theorem exists_dir_of_locate (hl : d.locate path = .ok p) (hp : d.root.nodeAt? p = none) :
    ∃ dir name, p = dir ++ [name] ∧ d.root.nodeAt? dir = some .dir := by
  obtain ⟨hne, -, -, hw⟩ := locate_eq_ok.1 hl
  rcases List.eq_nil_or_concat (Path.parts path) with he | ⟨parts, name, he⟩
  · rw [he, start, if_pos (Path.isAbsolute_of_parts_eq_nil hne he)] at hw
    obtain rfl : [] = p := Except.ok.inj hw
    simp at hp
  · have hnode : d.root.nodeAt? p ≠ some .dir := by simp [hp]
    rw [he, List.concat_eq_append] at hw
    obtain ⟨dir, -, hdir, -, -, rfl⟩ := exists_dir_of_walk hnode hw
    exact ⟨dir, name, rfl, hdir⟩

/-! ## Changes of files -/

/-- The disks differ in files only, and at places only that one of the paths leads to. -/
structure OnlyAt (paths : List String) (d d' : Disk) : Prop where
  sameDirs : d.SameDirs d'
  elsewhere : ∀ q, (∀ path ∈ paths, d.locate path ≠ .ok q) → d'.root.nodeAt? q = d.root.nodeAt? q

namespace OnlyAt

variable {paths paths' : List String}

theorem refl (paths : List String) (d : Disk) : d.OnlyAt paths d :=
  ⟨SameDirs.refl d, fun _ _ => rfl⟩

theorem trans (h : d.OnlyAt paths d') (h' : d'.OnlyAt paths d'') : d.OnlyAt paths d'' := by
  refine ⟨h.sameDirs.trans h'.sameDirs, fun q hq => ?_⟩
  rw [h'.elsewhere q, h.elsewhere q hq]
  intro path hpath hl
  exact hq path hpath (h.sameDirs.symm.locate hl)

theorem mono (h : d.OnlyAt paths d') (hsub : paths ⊆ paths') : d.OnlyAt paths' d' :=
  ⟨h.sameDirs, fun q hq => h.elsewhere q fun path hpath => hq path (hsub hpath)⟩

/-- One place was changed, to which the path leads. -/
theorem of_update {n : Option Node} (hl : d.locate path = .ok p) (hp : d.root.nodeAt? p ≠ some .dir)
    (hn : n ≠ some .dir) (hhome : d'.home = d.home)
    (hroot : d'.root.nodeAt? = Function.update d.root.nodeAt? p n) : d.OnlyAt [path] d' := by
  refine ⟨.of_update hp hn hhome hroot, fun q hq => ?_⟩
  have hne : q ≠ p := by
    rintro rfl
    exact hq path List.mem_cons_self hl
  rw [hroot, Function.update_of_ne hne]

/-- A path that leads elsewhere leads to what it led to. -/
theorem node?_eq {path' : String} (h : d.OnlyAt [path] d')
    (hne : ∀ q, d.locate path' = .ok q → d.locate path ≠ .ok q) : d'.node? path' = d.node? path' := by
  refine h.sameDirs.node?_eq fun q hq => h.elsewhere q ?_
  intro y hy
  rw [List.mem_singleton.1 hy]
  exact hne q hq

end OnlyAt

theorem node?_eq_none (hhome : d'.home = d.home) (hl : d.locate path = .ok p)
    (hp : d'.root.nodeAt? p = none) : d'.node? path = none := by
  by_contra hne
  obtain ⟨n, hn⟩ := Option.ne_none_iff_exists'.1 hne
  obtain ⟨q, hq, hnode, -⟩ := node?_eq_some.1 hn
  rw [locate_unique hhome hl hq, hp] at hnode
  simp at hnode

/-- A file that was removed is gone, and nothing else is. -/
theorem removeFile_eq_ok (h : d.removeFile path = .ok d') :
    d.OnlyAt [path] d' ∧ d'.node? path = none := by
  rw [removeFile] at h
  cases ht : d.lookup path with
  | error c => simp [ht, bind, Except.bind] at h
  | ok t =>
    cases t with
    | dir es => simp [ht, bind, Except.bind] at h
    | file b =>
      obtain ⟨p, hl, hat, hs⟩ := lookup_eq_ok.1 ht
      have hnode : d.root.nodeAt? p = some (.file b) := Tree.nodeAt?_eq_file.2 hat
      have hdir : d.root.nodeAt? p ≠ some .dir := by simp [hnode]
      have hslash : Path.endsWithSlash path = false := by
        by_contra hc
        exact absurd (hs (by simpa using hc)) (by simp [Tree.isDir])
      obtain ⟨s, -, -, rfl⟩ := exists_seat hl hslash hdir
      obtain rfl : d.unset (s.place "") = d' := by
        simpa [ht, hl, bind, Except.bind, pure, Except.pure] using h
      have hroot := Tree.nodeAt?_erase_file (s.place_ne_nil "") hdir
      refine ⟨.of_update hl hdir (by simp) rfl hroot, node?_eq_none (d := d) rfl hl ?_⟩
      exact (congrFun hroot _).trans (Function.update_self _ _ _)

theorem node?_of_removeFile (h : d.removeFile path = .error .notFound) : d.node? path = none := by
  rw [removeFile] at h
  rw [node?]
  cases ht : d.lookup path with
  | error c => rfl
  | ok t =>
    obtain ⟨p, hl, -, -⟩ := lookup_eq_ok.1 ht
    cases t <;> simp [ht, hl, bind, Except.bind, pure, Except.pure] at h

/-- Nothing is at the path after it was removed, if it could be. -/
theorem removeIfPresent_eq_ok (h : d.removeIfPresent path = .ok d') :
    d.OnlyAt [path] d' ∧ d'.node? path = none := by
  rw [removeIfPresent] at h
  split at h
  · next hr =>
    obtain rfl := Except.ok.inj h
    exact ⟨.refl _ d, node?_of_removeFile hr⟩
  · exact removeFile_eq_ok h

/-- After an attempt to remove a file only a directory is at the path. -/
theorem removeFile_getD (d : Disk) (path : String) :
    d.OnlyAt [path] ((d.removeFile path).toOption.getD d) ∧
      ((d.removeFile path).toOption.getD d).node? path =
        if d.node? path = some .dir then some .dir else none := by
  cases hr : d.removeFile path with
  | ok d' =>
    obtain ⟨honly, hnone⟩ := removeFile_eq_ok hr
    have hdir : d.node? path ≠ some .dir := honly.sameDirs.symm.node?_ne_dir (by simp [hnone])
    exact ⟨honly, by rw [if_neg hdir]; exact hnone⟩
  | error c =>
    refine ⟨.refl _ d, ?_⟩
    change d.node? path = _
    rw [removeFile] at hr
    rw [node?]
    cases ht : d.lookup path with
    | error c => rfl
    | ok t =>
      cases t with
      | dir es => rfl
      | file b =>
        obtain ⟨p, hl, -⟩ := lookup_eq_ok.1 ht
        simp [ht, hl, bind, Except.bind, pure, Except.pure] at hr

/-- Only a path without a slash at its end names a file for writing, one that is there or none. -/
theorem target_eq_ok {old : Option Utf8.Bytes} (h : d.target path = .ok (p, old)) :
    d.locate path = .ok p ∧ Path.endsWithSlash path = false ∧ d.root.nodeAt? p ≠ some .dir := by
  by_cases hs : Path.endsWithSlash path = true
  · rw [target, hs] at h
    cases ho : d.origin path with
    | error c => simp [ho, bind, Except.bind] at h
    | ok start =>
      cases hw : walk d.root start (Path.parts path).dropLast with
      | error c => simp [ho, hw, bind, Except.bind] at h
      | ok above =>
        simp only [ho, hw, bind, Except.bind, if_true] at h
        split at h <;> simp at h
  · have hslash : Path.endsWithSlash path = false := by simpa using hs
    rw [target_eq hslash] at h
    cases hl : d.locate path with
    | error c => simp [hl, bind, Except.bind] at h
    | ok q =>
      simp only [hl, bind, Except.bind] at h
      split at h
      · simp at h
      · next b hat =>
        obtain ⟨rfl, -⟩ := Prod.mk.inj (Except.ok.inj h)
        exact ⟨rfl, hslash, by simp [Tree.nodeAt?, hat, Tree.node]⟩
      · next hat =>
        obtain ⟨rfl, -⟩ := Prod.mk.inj (Except.ok.inj h)
        exact ⟨rfl, hslash, by simp [Tree.nodeAt?, hat]⟩

theorem write_eq_ok (h : d.write path b = .ok d') : d.OnlyAt [path] d' := by
  rw [write] at h
  cases ht : d.target path with
  | error c => simp [ht, bind, Except.bind] at h
  | ok r =>
    obtain ⟨p, old⟩ := r
    obtain rfl : d.set p (.file b) = d' := by
      simpa [ht, bind, Except.bind, pure, Except.pure] using h
    obtain ⟨hl, hslash, hp⟩ := target_eq_ok ht
    obtain ⟨s, hs, -, rfl⟩ := exists_seat hl hslash hp
    exact .of_update hl hp (by simp) rfl (Tree.nodeAt?_put_file hs.inDir hp b)

/-! ## Moving -/

/-- All that was at or below the place `p` is at or below `q`, in the stead of what was there. -/
structure Moved (p q : List String) (d d' : Disk) : Prop where
  home : d'.home = d.home
  found : d.root.nodeAt? p ≠ none
  there : ∀ x, d'.root.nodeAt? (q ++ x) = d.root.nodeAt? (p ++ x)
  gone : d'.root.nodeAt? p = none
  elsewhere : ∀ x, ¬ p <+: x → ¬ q <+: x → d'.root.nodeAt? x = d.root.nodeAt? x

theorem moved_move (hat : d.root.at? p = some t) (hdir : d.root.nodeAt? place = some .dir)
    (hq : q = place ++ [name]) (hnone : d.root.nodeAt? q = none) (hpq : ¬ p <+: q) :
    Moved p q d (d.move p q t) := by
  subst hq
  have hp : p ≠ [] := by
    rintro rfl
    exact hpq List.nil_prefix
  have hdir' : (d.root.erase p).nodeAt? place = some .dir := by
    rw [Tree.nodeAt?_erase hp, if_neg ?_, hdir]
    intro hpre
    exact hpq (hpre.trans (List.prefix_append _ _))
  have hqp : ¬ place ++ [name] <+: p := by
    rintro ⟨r, rfl⟩
    have hr : r ≠ [] := by
      rintro rfl
      rw [List.append_nil] at hpq
      exact hpq List.prefix_rfl
    have hbelow := Tree.nodeAt?_append_eq_none hr (show d.root.nodeAt? (place ++ [name]) ≠ some .dir by
      simp [hnone])
    rw [Tree.nodeAt?_eq_none, hat] at hbelow
    simp at hbelow
  have hroot (x : List String) : (d.move p (place ++ [name]) t).root.nodeAt? x =
      if place ++ [name] <+: x then t.nodeAt? (x.drop (place ++ [name]).length)
      else if p <+: x then none else d.root.nodeAt? x := by
    rw [move, Tree.nodeAt?_put hdir', Tree.nodeAt?_erase hp]
  refine ⟨rfl, by simp [Tree.nodeAt?, hat], fun x => ?_, ?_, fun x hpx hqx => ?_⟩
  · rw [hroot, if_pos (List.prefix_append _ x), List.drop_left, Tree.nodeAt?_append, hat,
      Option.bind_some]
  · rw [hroot, if_neg hqp, if_pos List.prefix_rfl]
  · rw [hroot, if_neg hqx, if_neg hpx]

/-- What was renamed to a path with nothing at it is there. -/
theorem rename_eq_ok {source target : String} (h : d.rename source target = .ok d')
    (hnone : d.node? target = none) : ∃ p q, d.locate source = .ok p ∧ d.locate target = .ok q ∧
      (Path.endsWithSlash target = true → d.root.nodeAt? p = some .dir) ∧ ¬ p <+: q ∧
      d.root.nodeAt? q = none ∧ Moved p q d d' := by
  rw [rename] at h
  cases ht : d.lookup source with
  | error c => simp [ht, bind, Except.bind] at h
  | ok t =>
    obtain ⟨p, hp, hat, -⟩ := lookup_eq_ok.1 ht
    cases hq : d.locate target with
    | error c => simp [ht, hp, hq, bind, Except.bind] at h
    | ok q =>
      simp only [ht, hp, hq, bind, Except.bind] at h
      have hfound {u : Tree} (hu : d.root.at? q = some u) :
          ¬ (Path.endsWithSlash target = true → u.isDir = true) := by
        intro hs
        rw [node?, lookup_eq_ok.2 ⟨q, hq, hu, hs⟩] at hnone
        simp [Except.toOption] at hnone
      split at h
      · simp at h
      next hslash =>
      have hslash : Path.endsWithSlash target = true → t.isDir = true := by simpa using hslash
      split at h
      · next he => exact absurd hslash (hfound (he ▸ hat))
      split at h
      · simp at h
      next hpre =>
      have hpq : ¬ p <+: q := fun hpq => hpre (List.isPrefixOf_iff_prefix.2 hpq)
      cases hat' : d.root.at? q with
      | some u =>
        cases u with
        | dir es => exact absurd (fun _ => rfl) (hfound hat')
        | file b =>
          cases t with
          | dir es => simp [hat'] at h
          | file b' => exact (hfound hat' hslash).elim
      | none =>
        rw [hat'] at h
        obtain rfl : d.move p q t = d' := Except.ok.inj h
        obtain ⟨dir, name, hname, hdir⟩ := exists_dir_of_locate hq (Tree.nodeAt?_eq_none.2 hat')
        have hmoved := moved_move hat hdir hname (Tree.nodeAt?_eq_none.2 hat') hpq
        refine ⟨p, q, hp, rfl, fun hs => ?_, hpq, Tree.nodeAt?_eq_none.2 hat', hmoved⟩
        cases t with
        | dir es => exact Tree.nodeAt?_eq_dir.2 ⟨es, hat⟩
        | file b => exact absurd (hslash hs) (by simp [Tree.isDir])

/-- A file that is moved to a place without a directory leaves the directories as they were. -/
theorem Moved.sameDirs (h : Moved p q d d') (hp : d.root.nodeAt? p ≠ some .dir)
    (hq : d.root.nodeAt? q ≠ some .dir) : d.SameDirs d' := by
  refine ⟨h.home, fun x => ?_⟩
  have hgone : d'.root.nodeAt? p ≠ some .dir := by simp [h.gone]
  have hplain {t : Tree} {y : List String} (hy : t.nodeAt? y ≠ some .dir) (r : List String) :
      t.nodeAt? (y ++ r) ≠ some .dir := by
    cases r with
    | nil => rwa [List.append_nil]
    | cons n r => simp [Tree.nodeAt?_append_eq_none (List.cons_ne_nil n r) hy]
  by_cases hqx : q <+: x
  · obtain ⟨r, rfl⟩ := hqx
    rw [h.there r]
    exact iff_of_false (hplain hp r) (hplain hq r)
  by_cases hpx : p <+: x
  · obtain ⟨r, rfl⟩ := hpx
    exact iff_of_false (hplain hgone r) (hplain hp r)
  · rw [h.elsewhere x hpx hqx]

end Disk

end Byline
