import Byline.Proofs.Storage.Place
import Byline.Storage.Sources
import Mathlib.Data.List.Lex
import Mathlib.Data.List.Nodup
import Mathlib.Data.String.Basic

/-!
# The source files of a tree

The sources of a tree are its files with a source name (`Tree.mem_sources`), in the order of their
paths, part by part (`Tree.sources_pairwise`). Two trees that have a file with a source name at the
same places thus have the same list of sources, whatever else they hold (`Tree.sources_congr`).
-/

namespace Byline

namespace Tree

variable {t u : Tree} {ns : List String} {name : String}

/-- A source name is a stem that is not empty and the extension after a dot. -/
theorem isSourceName_iff {name : String} :
    isSourceName name = true ↔ ∃ stem, stem ≠ "" ∧ name = stem ++ ".java" := by
  have hcut : isSourceName name = true ↔ (Path.cutName name.toList).2 = some "java".toList := by
    rw [isSourceName, beq_iff_eq, Path.extension?, Option.map_eq_some_iff]
    simp [sourceExtension, ← String.toList_inj]
  have hlist (stem : String) : (stem ++ ".java").toList = stem.toList ++ '.' :: "java".toList := by
    rw [String.toList_append]
    rfl
  rw [hcut]
  constructor
  · intro h
    by_cases hdot : '.' ∈ name.toList
    · obtain ⟨ext, stem, hname, hext⟩ := List.eq_append_cons_of_mem (List.mem_reverse.2 hdot)
      have hname : name.toList = stem.reverse ++ '.' :: ext.reverse := by
        simpa using congrArg List.reverse hname
      rw [hname, Path.cutName_append _ (by simpa using hext)] at h
      split at h
      · next hs =>
        have hjava : ext.reverse = "java".toList := by simpa using h
        refine ⟨String.ofList stem.reverse, by simpa using hs.1, ?_⟩
        rw [← String.toList_inj, hlist, String.toList_ofList (l := stem.reverse), hname, hjava]
      · simp at h
    · rw [Path.cutName_of_notMem hdot] at h
      simp at h
  · rintro ⟨stem, hs, rfl⟩
    rw [hlist, Path.cutName_append _ (by decide), if_pos]
    refine ⟨by simpa using hs, fun h => ?_⟩
    have hlen := congrArg List.length h
    rw [List.length_append, List.length_cons, show "java".toList.length = 4 by decide] at hlen
    simp at hlen

/-- The last name of the path is that of a source file. -/
def EndsInSource (ns : List String) : Prop := ∃ n, ns.getLast? = some n ∧ isSourceName n = true

theorem sourcesIn_eq (es : List (String × Tree)) :
    sourcesIn es = es.map fun e => (e.1, e.2.sourcesAt e.1) := by
  induction es with
  | nil => rfl
  | cons e es ih =>
    obtain ⟨n, t⟩ := e
    rw [sourcesIn, ih, List.map_cons]

theorem byName_perm {α : Type} (es : List (String × α)) : (byName es).Perm es :=
  List.mergeSort_perm es _

theorem byName_of_pairwise {α : Type} {es : List (String × α)} (h : es.Pairwise (·.1 ≤ ·.1)) :
    byName es = es :=
  List.mergeSort_of_pairwise (h.imp fun hle => decide_eq_true hle)

theorem pairwise_byName {α : Type} {es : List (String × α)} (h : (es.map (·.1)).Nodup) :
    (byName es).Pairwise (·.1 < ·.1) := by
  have hle : (byName es).Pairwise (·.1 ≤ ·.1) := by
    have hsorted := @List.pairwise_mergeSort _ (fun a b : String × α => decide (a.1 ≤ b.1))
      (by simpa using fun a _ b _ c _ => String.le_trans) (by simpa using fun a _ b _ => le_total a b)
      es
    exact hsorted.imp fun h => of_decide_eq_true h
  have hne : (byName es).Pairwise (·.1 ≠ ·.1) := by
    have hnodup : ((byName es).map (·.1)).Nodup := ((byName_perm es).map _).nodup_iff.2 h
    exact List.pairwise_map.1 hnodup
  exact (hle.and hne).imp fun h => lt_of_le_of_ne h.1 h.2

theorem sourcesAt_dir (name : String) (es : List (String × Tree)) :
    (dir es).sourcesAt name = (dir es).sources := rfl

theorem mem_sources_dir {es : List (String × Tree)} :
    ns ∈ (dir es).sources ↔ ∃ n p u, ns = n :: p ∧ (n, u) ∈ es ∧ p ∈ u.sourcesAt n := by
  have hmem (n : String) (ps : List (List String)) : (n, ps) ∈ byName (sourcesIn es) ↔
      ∃ u, (n, u) ∈ es ∧ ps = u.sourcesAt n := by
    rw [(byName_perm _).mem_iff, sourcesIn_eq, List.mem_map]
    constructor
    · rintro ⟨⟨m, u⟩, he, hp⟩
      obtain ⟨rfl, rfl⟩ := Prod.mk.inj hp
      exact ⟨u, he, rfl⟩
    · rintro ⟨u, he, rfl⟩
      exact ⟨(n, u), he, rfl⟩
  rw [sources, List.mem_flatMap]
  constructor
  · rintro ⟨⟨n, ps⟩, he, hns⟩
    obtain ⟨u, hu, rfl⟩ := (hmem n ps).1 he
    obtain ⟨p, hp, rfl⟩ := List.mem_map.1 hns
    exact ⟨n, p, u, rfl, hu, hp⟩
  · rintro ⟨n, p, u, rfl, hu, hp⟩
    exact ⟨(n, u.sourcesAt n), (hmem n _).2 ⟨u, hu, rfl⟩, List.mem_map.2 ⟨p, hp, rfl⟩⟩

theorem lookup_eq_some_iff {es : List (String × Tree)} (h : (es.map (·.1)).Nodup) {n : String} :
    es.lookup n = some u ↔ (n, u) ∈ es := by
  constructor
  · exact mem_of_lookup
  · intro hmem
    induction es with
    | nil => simp at hmem
    | cons e es ih =>
      obtain ⟨m, v⟩ := e
      rw [List.map_cons, List.nodup_cons] at h
      rw [List.lookup_cons]
      rcases List.mem_cons.1 hmem with he | he
      · obtain ⟨rfl, rfl⟩ := Prod.mk.inj he
        simp
      · have hne : (n == m) = false := by
          rw [beq_eq_false_iff_ne]
          rintro rfl
          exact h.1 (List.mem_map.2 ⟨_, he, rfl⟩)
        rw [hne]
        exact ih h.2 he

theorem mem_sourcesAt (ht : t.Proper) :
    ns ∈ t.sourcesAt name ↔ (∃ b, t.nodeAt? ns = some (.file b)) ∧ EndsInSource (name :: ns) := by
  induction ns generalizing t name with
  | nil =>
    cases t with
    | file b =>
      rw [sourcesAt, ownSource]
      by_cases hs : isSourceName name = true <;> simp [hs, EndsInSource, node]
    | dir es =>
      rw [sourcesAt_dir, mem_sources_dir]
      simp [node]
  | cons n ns ih =>
    cases t with
    | file b =>
      rw [sourcesAt, ownSource, nodeAt?_file_cons]
      split <;> simp
    | dir es =>
      have hd := (proper_dir_iff.1 ht).1
      have hends : EndsInSource (name :: n :: ns) ↔ EndsInSource (n :: ns) := by
        simp [EndsInSource, List.getLast?_cons_cons]
      rw [sourcesAt_dir, mem_sources_dir, nodeAt?_dir_cons, hends]
      constructor
      · rintro ⟨n', p, u, he, hu, hp⟩
        obtain ⟨rfl, rfl⟩ := List.cons.inj he
        have hl := (lookup_eq_some_iff hd).2 hu
        rw [hl, Option.bind_some]
        exact (ih (ht.of_lookup hl)).1 hp
      · rintro ⟨⟨b, hb⟩, he⟩
        obtain ⟨u, hl, hb⟩ := Option.bind_eq_some_iff.1 hb
        exact ⟨n, ns, u, rfl, mem_of_lookup hl, (ih (ht.of_lookup hl)).2 ⟨⟨b, hb⟩, he⟩⟩

/-- The sources of a directory are the files below it that have a source name. -/
theorem mem_sources {es : List (String × Tree)} (ht : (dir es).Proper) :
    ns ∈ (dir es).sources ↔ (∃ b, (dir es).nodeAt? ns = some (.file b)) ∧ EndsInSource ns := by
  rw [← sourcesAt_dir "", mem_sourcesAt ht]
  cases ns with
  | nil => simp [node]
  | cons n ns => simp [EndsInSource, List.getLast?_cons_cons]

theorem pairwise_sourcesAt (ht : t.Proper) (name : String) :
    (t.sourcesAt name).Pairwise (· < ·) := by
  induction ht generalizing name with
  | file b =>
    rw [sourcesAt, ownSource]
    split <;> simp
  | @dir es hd _ _ ih =>
    have hnames : ((sourcesIn es).map (·.1)).Nodup := by
      rwa [sourcesIn_eq, List.map_map]
    rw [sourcesAt_dir, sources, List.pairwise_flatMap]
    constructor
    · intro e he
      rw [(byName_perm _).mem_iff, sourcesIn_eq] at he
      obtain ⟨⟨n, u⟩, hu, rfl⟩ := List.mem_map.1 he
      rw [List.pairwise_map]
      exact (ih _ hu n).imp fun h => List.cons_lt_cons_iff.2 (.inr ⟨rfl, h⟩)
    · refine (pairwise_byName hnames).imp ?_
      intro a b hab x hx y hy
      obtain ⟨p, -, rfl⟩ := List.mem_map.1 hx
      obtain ⟨q, -, rfl⟩ := List.mem_map.1 hy
      exact List.cons_lt_cons_iff.2 (.inl hab)

/-- The sources come in the order of their paths, part by part, each once. -/
theorem sources_pairwise (ht : t.Proper) : t.sources.Pairwise (· < ·) := by
  cases t with
  | file b => exact List.Pairwise.nil
  | dir es => exact pairwise_sourcesAt ht ""

theorem nodup_sources (ht : t.Proper) : t.sources.Nodup :=
  (sources_pairwise ht).imp fun h => ne_of_lt h

/-- Only the places of files with a source name tell what the sources are. -/
theorem sources_congr {es es' : List (String × Tree)} (ht : (dir es).Proper)
    (ht' : (dir es').Proper)
    (h : ∀ ns, EndsInSource ns → ((∃ b, (dir es).nodeAt? ns = some (.file b)) ↔
      ∃ b, (dir es').nodeAt? ns = some (.file b))) :
    (dir es).sources = (dir es').sources := by
  have hperm : (dir es).sources.Perm (dir es').sources := by
    rw [List.perm_ext_iff_of_nodup (nodup_sources ht) (nodup_sources ht')]
    intro ns
    rw [mem_sources ht, mem_sources ht']
    exact and_congr_left (h ns)
  exact hperm.eq_of_pairwise (fun a b _ _ hab hba => absurd hab (lt_asymm hba))
    (sources_pairwise ht) (sources_pairwise ht')

theorem Proper.isName_of_at? (ht : t.Proper) (h : t.at? ns ≠ none) : ∀ n ∈ ns, IsName n := by
  induction ns generalizing t with
  | nil => simp
  | cons n ns ih =>
    cases t with
    | file b => exact absurd rfl h
    | dir es =>
      rw [at?_dir_cons] at h
      cases hl : es.lookup n with
      | none => simp [hl] at h
      | some u =>
        rw [hl, Option.bind_some] at h
        intro m hm
        rcases List.mem_cons.1 hm with rfl | hm
        · exact (proper_dir_iff.1 ht).2.1 _ (mem_of_lookup hl)
        · exact ih (ht.of_lookup hl) h m hm

end Tree

namespace Path

variable {base : String} {ns ms : List String}

theorem parts_foldl_join (h : ∀ n ∈ ns, Tree.IsName n) (base : String) :
    parts (ns.foldl join base) = parts base ++ ns := by
  induction ns generalizing base with
  | nil => simp
  | cons n ns ih =>
    rw [List.foldl_cons, ih fun m hm => h m (List.mem_cons_of_mem n hm),
      parts_join (h n List.mem_cons_self), List.append_assoc, List.singleton_append]

end Path

theorem toOption_eq_some {ε α : Type} {e : Except ε α} {a : α} :
    e.toOption = some a ↔ e = .ok a := by
  cases e <;> simp [Except.toOption]

namespace Disk

variable {d d' : Disk} {base path f : String} {place q : List String}

/-! ## Nodes at paths -/

/-- What a path leads to. -/
def node? (d : Disk) (path : String) : Option Node := (d.lookup path).toOption.map Tree.node

theorem lookup_eq_ok {t : Tree} : d.lookup path = .ok t ↔ ∃ place, d.locate path = .ok place ∧
    d.root.at? place = some t ∧ (Path.endsWithSlash path = true → t.isDir = true) := by
  rw [lookup]
  cases d.locate path with
  | error c => simp [bind, Except.bind]
  | ok place =>
    cases ht : d.root.at? place with
    | none => simp [bind, Except.bind, ht]
    | some u =>
      by_cases hs : Path.endsWithSlash path = true <;> cases hu : u.isDir <;>
        simp [bind, Except.bind, pure, Except.pure, ht, hs, hu] <;> grind

theorem node?_eq_some {n : Node} : d.node? path = some n ↔ ∃ place, d.locate path = .ok place ∧
    d.root.nodeAt? place = some n ∧ (Path.endsWithSlash path = true → n = .dir) := by
  have hdir (t : Tree) : t.isDir = true ↔ t.node = .dir := by cases t <;> simp [Tree.isDir, Tree.node]
  constructor
  · intro h
    obtain ⟨t, ht, rfl⟩ := Option.map_eq_some_iff.1 h
    obtain ⟨place, hplace, hat, hs⟩ := lookup_eq_ok.1 (toOption_eq_some.1 ht)
    exact ⟨place, hplace, by rw [Tree.nodeAt?, hat, Option.map_some], fun h => (hdir t).1 (hs h)⟩
  · rintro ⟨place, hplace, hn, hs⟩
    obtain ⟨t, ht, rfl⟩ := Option.map_eq_some_iff.1 hn
    have hl : d.lookup path = .ok t := lookup_eq_ok.2 ⟨place, hplace, ht, fun h => (hdir t).2 (hs h)⟩
    rw [node?, toOption_eq_some.2 hl, Option.map_some]

theorem read_eq_ok {b : Utf8.Bytes} : d.read path = .ok b ↔ d.node? path = some (.file b) := by
  rw [read, node?]
  cases d.lookup path with
  | error c => simp [bind, Except.bind, Except.toOption]
  | ok t => cases t <;> simp [bind, Except.bind, content, Except.toOption, Tree.node]

theorem locate_eq_ok : d.locate path = .ok place ↔
    path ≠ "" ∧ '\x00' ∉ path.toList ∧ path.utf8ByteSize < pathLimit ∧
      walk d.root (d.start path) (Path.parts path) = .ok place := by
  by_cases hne : path = ""
  · subst hne
    simp [locate, origin, bind, Except.bind]
  by_cases hnul : '\x00' ∈ path.toList
  · simp [locate, origin, hnul, bind, Except.bind]
  rw [locate_eq hne hnul]
  by_cases hl : pathLimit ≤ path.utf8ByteSize
  · rw [if_pos hl]
    simp [hl]
  · rw [if_neg hl]
    simp [hne, hnul, Nat.lt_of_not_le hl]

theorem locate_unique {q' : List String} (hhome : d'.home = d.home) (h : d.locate path = .ok q)
    (h' : d'.locate path = .ok q') : q' = q := by
  obtain ⟨-, -, -, hw⟩ := locate_eq_ok.1 h
  obtain ⟨-, -, -, hw'⟩ := locate_eq_ok.1 h'
  rw [eq_of_walk hw, eq_of_walk hw', start, start, hhome]

theorem lookup_of_read {b : Utf8.Bytes} (h : d.read path = .ok b) :
    d.lookup path = .ok (.file b) := by
  rw [read] at h
  cases ht : d.lookup path with
  | error c => simp [ht, bind, Except.bind] at h
  | ok t =>
    cases t with
    | file b' => simpa [ht, bind, Except.bind, content] using h
    | dir es => simp [ht, bind, Except.bind, content] at h

theorem toOption_read_eq_none :
    (d.read path).toOption = none ↔ ∀ b, d.node? path ≠ some (.file b) := by
  rw [Option.eq_none_iff_forall_ne_some]
  refine forall_congr' fun b => not_congr ?_
  rw [toOption_eq_some, read_eq_ok]

theorem toOption_read_congr (h : d'.node? path = d.node? path) :
    (d'.read path).toOption = (d.read path).toOption := by
  ext b
  rw [toOption_eq_some, toOption_eq_some, read_eq_ok, read_eq_ok, h]

/-- The same working directory, and directories at the same places. -/
structure SameDirs (d d' : Disk) : Prop where
  home : d'.home = d.home
  dirs : ∀ p, d'.root.nodeAt? p = some .dir ↔ d.root.nodeAt? p = some .dir

namespace SameDirs

theorem refl (d : Disk) : d.SameDirs d := ⟨rfl, fun _ => Iff.rfl⟩

theorem symm (h : d.SameDirs d') : d'.SameDirs d := ⟨h.home.symm, fun p => (h.dirs p).symm⟩

theorem trans {d'' : Disk} (h : d.SameDirs d') (h' : d'.SameDirs d'') : d.SameDirs d'' :=
  ⟨h'.home.trans h.home, fun p => (h'.dirs p).trans (h.dirs p)⟩

/-- A place without a directory was changed, and there is none. -/
theorem of_update {p : List String} {n : Option Node} (hp : d.root.nodeAt? p ≠ some .dir)
    (hn : n ≠ some .dir) (hhome : d'.home = d.home)
    (hroot : d'.root.nodeAt? = Function.update d.root.nodeAt? p n) : d.SameDirs d' := by
  refine ⟨hhome, fun q => ?_⟩
  rw [hroot]
  by_cases hq : q = p
  · rw [hq, Function.update_self]
    exact iff_of_false hn hp
  · rw [Function.update_of_ne hq]

theorem seats {s : Seat} (h : d.SameDirs d') (hs : d.Seats s) : d'.Seats s :=
  hs.of_dirs h.home fun p => (h.dirs p).2

theorem locate (h : d.SameDirs d') (hq : d.locate path = .ok q) : d'.locate path = .ok q := by
  obtain ⟨hne, hnul, hlen, hw⟩ := locate_eq_ok.1 hq
  have hstart : d'.start path = d.start path := by rw [start, start, h.home]
  exact locate_eq_ok.2 ⟨hne, hnul, hlen, hstart ▸ walk_of_dirs (fun p => (h.dirs p).2) hw⟩

theorem node?_ne_dir (h : d.SameDirs d') (hn : d.node? path ≠ some .dir) :
    d'.node? path ≠ some .dir := by
  intro hdir
  obtain ⟨q, hq, hat, -⟩ := node?_eq_some.1 hdir
  exact hn (node?_eq_some.2 ⟨q, h.symm.locate hq, (h.dirs q).1 hat, fun _ => rfl⟩)

/-- Where nothing is left, nothing was, or a file. -/
theorem node?_eq_or_lost (h : d.SameDirs d') (hn : d'.node? path = none) :
    d'.node? path = d.node? path ∨
      (∃ b, d.node? path = some (.file b)) ∧ d'.node? path = none := by
  have hdir : d.node? path ≠ some .dir := h.symm.node?_ne_dir (by simp [hn])
  cases hnode : d.node? path with
  | none => exact .inl hn
  | some n =>
    cases n with
    | file b => exact .inr ⟨⟨b, rfl⟩, hn⟩
    | dir => exact absurd hnode hdir

theorem node?_eq (h : d.SameDirs d')
    (hq : ∀ q, d.locate path = .ok q → d'.root.nodeAt? q = d.root.nodeAt? q) :
    d'.node? path = d.node? path := by
  ext n
  rw [node?_eq_some, node?_eq_some]
  constructor
  · rintro ⟨q, hl, hn, hs⟩
    have hl' := h.symm.locate hl
    exact ⟨q, hl', hq q hl' ▸ hn, hs⟩
  · rintro ⟨q, hl, hn, hs⟩
    exact ⟨q, h.locate hl, (hq q hl).symm ▸ hn, hs⟩

end SameDirs

/-! ## Finding sources -/

theorem start_foldl_join {ns : List String} (h : ∀ n ∈ ns, Tree.IsName n) (d : Disk)
    (base : String) : d.start (ns.foldl Path.join base) = d.start base := by
  induction ns generalizing base with
  | nil => rfl
  | cons n ns ih =>
    rw [List.foldl_cons, ih fun m hm => h m (List.mem_cons_of_mem n hm),
      start_join (h n List.mem_cons_self)]

theorem hasDir_iff : d.hasDir base = true ↔ ∃ es, d.lookup base = .ok (.dir es) := by
  rw [hasDir]
  cases d.lookup base with
  | error c => simp [Except.toOption]
  | ok t => cases t <;> simp [Except.toOption, Tree.isDir]

theorem findSources_of_lookup {es : List (String × Tree)} (h : d.lookup base = .ok (.dir es))
    (hs : isStandardInput base = false) :
    (d.findSources base).1 = (Tree.dir es).sources.map (·.foldl Path.join base) := by
  rw [findSources, h]
  simp [hs]

theorem mem_findSources : f ∈ (d.findSources base).1 ↔
    isStandardInput base = false ∧ ∃ place es ns, d.locate base = .ok place ∧
      d.root.at? place = some (.dir es) ∧ ns ∈ (Tree.dir es).sources ∧
      f = ns.foldl Path.join base := by
  constructor
  · intro h
    rw [findSources] at h
    split at h
    · next es he =>
      obtain ⟨place, hl, ht, -⟩ := lookup_eq_ok.1 he
      dsimp only at h
      split at h
      · simp at h
      · next hs =>
        obtain ⟨ns, hns, rfl⟩ := List.mem_map.1 h
        exact ⟨by simpa using hs, place, es, ns, hl, ht, hns, rfl⟩
    · simp at h
  · rintro ⟨hs, place, es, ns, hl, ht, hns, rfl⟩
    have he : d.lookup base = .ok (.dir es) := lookup_eq_ok.2 ⟨place, hl, ht, fun _ => rfl⟩
    rw [findSources_of_lookup he hs]
    exact List.mem_map.2 ⟨ns, hns, rfl⟩

theorem findSources_eq_nil (h : ¬ (d.hasDir base = true ∧ isStandardInput base = false)) :
    (d.findSources base).1 = [] := by
  rw [List.eq_nil_iff_forall_not_mem]
  intro f hf
  obtain ⟨hs, place, es, -, hl, ht, -⟩ := mem_findSources.1 hf
  exact h ⟨hasDir_iff.2 ⟨es, lookup_eq_ok.2 ⟨place, hl, ht, fun _ => rfl⟩⟩, hs⟩

/-- A source that is found, with the directory it was found from and the names that lead to it. -/
structure FoundAt (d : Disk) (base f : String) (top ns : List String) : Prop where
  notInput : isStandardInput base = false
  atTop : d.locate base = .ok top
  path : f = ns.foldl Path.join base
  isName : ∀ n ∈ ns, Tree.IsName n
  ends : Tree.EndsInSource ns
  isFile : ∃ b, d.root.nodeAt? (top ++ ns) = some (.file b)

theorem mem_findSources_iff (hd : d.root.Proper) :
    f ∈ (d.findSources base).1 ↔ ∃ top ns, d.FoundAt base f top ns := by
  rw [mem_findSources]
  constructor
  · rintro ⟨hs, top, es, ns, hl, ht, hns, rfl⟩
    obtain ⟨⟨b, hb⟩, he⟩ := (Tree.mem_sources (hd.of_at? ht)).1 hns
    have hne : (Tree.dir es).at? ns ≠ none := by
      rw [Tree.nodeAt?_eq_file.1 hb]
      exact Option.some_ne_none _
    exact ⟨top, ns, hs, hl, rfl, (hd.of_at? ht).isName_of_at? hne, he, b, by
      rw [Tree.nodeAt?_append, ht, Option.bind_some, hb]⟩
  · rintro ⟨top, ns, h⟩
    obtain ⟨b, hb⟩ := h.isFile
    obtain ⟨n, hlast, -⟩ := h.ends
    have hne : ns ≠ [] := by
      rintro rfl
      simp at hlast
    obtain ⟨es, ht⟩ := Tree.nodeAt?_eq_dir.1 (Tree.nodeAt?_of_append hne (hb ▸ Option.some_ne_none _))
    rw [Tree.nodeAt?_append, ht, Option.bind_some] at hb
    exact ⟨h.notInput, top, es, ns, h.atTop, ht,
      (Tree.mem_sources (hd.of_at? ht)).2 ⟨⟨b, hb⟩, h.ends⟩, h.path⟩

/-- A seat of a source: its path ends with the name of the source in a directory. -/
structure SourceSeat (d : Disk) (base f : String) (s : Seat) : Prop where
  path : s.path = f
  found : ∃ top ns, d.FoundAt base f top ns ∧ s.place "" = top ++ ns
  isSource : Tree.isSourceName s.name = true
  seats : d.Seats s

namespace FoundAt

variable {top ns : List String}

theorem exists_concat (h : d.FoundAt base f top ns) :
    ∃ init name, ns = init ++ [name] ∧ Tree.isSourceName name = true := by
  obtain ⟨name, hlast, hname⟩ := h.ends
  obtain ⟨init, rfl⟩ := List.getLast?_eq_some_iff.1 hlast
  exact ⟨init, name, rfl, hname⟩

/-- If the path of a source can be followed, be it with a suffix, the source has a seat. -/
theorem exists_seat (h : d.FoundAt base f top ns) {suf : String} (hs : PlainSuffix suf)
    (hq : d.locate (f ++ suf) = .ok q) :
    ∃ s, d.SourceSeat base f s ∧ s.place "" = top ++ ns := by
  have hfound := h
  obtain ⟨init, name, rfl, hname⟩ := h.exists_concat
  have hnames : ∀ n ∈ init, Tree.IsName n := fun n hn => h.isName n (List.mem_append_left _ hn)
  have hlast : Tree.IsName name := h.isName name (by simp)
  have hsuf : Tree.IsName (name ++ suf) := Path.isName_append hlast hs.1
  obtain ⟨-, hnul, -, hw⟩ := locate_eq_ok.1 hq
  obtain ⟨-, -, -, hbase⟩ := locate_eq_ok.1 h.atTop
  have hpath : f = Path.join (init.foldl Path.join base) name := by
    rw [h.path, List.foldl_append, List.foldl_cons, List.foldl_nil]
  have hjoin : f ++ suf = Path.join (init.foldl Path.join base) (name ++ suf) := by
    rw [hpath, Path.join_append hlast hs.1]
  rw [hjoin, start_join hsuf, Path.parts_join hsuf, walk_append] at hw
  cases hdir : walk d.root (d.start (init.foldl Path.join base))
      (Path.parts (init.foldl Path.join base)) with
  | error c => simp [hdir, Except.bind] at hw
  | ok dir =>
    have htop : dir = top ++ init := by
      rw [start_foldl_join hnames, Path.parts_foldl_join hnames, walk_append, hbase] at hdir
      rw [eq_of_walk hdir]
      exact foldl_enter hnames top
    have hnul' : '\x00' ∉ f.toList := by
      rw [String.toList_append, List.mem_append, not_or] at hnul
      exact hnul.1
    have hplace : (⟨f, dir, name⟩ : Seat).place "" = top ++ (init ++ [name]) := by
      simp [Seat.place, htop]
    refine ⟨⟨f, dir, name⟩, ⟨rfl, ⟨top, _, hfound, hplace⟩, hname, hlast, hnul', ?_, _, hpath, hdir⟩,
      hplace⟩
    obtain ⟨b, hb⟩ := h.isFile
    rw [← List.append_assoc, ← htop] at hb
    exact Tree.nodeAt?_of_append (List.cons_ne_nil name []) (hb ▸ Option.some_ne_none _)

/-- The place that the path of a source leads to, be it with a suffix, is in the path: it is the same
on every disk on which the path can be followed. -/
theorem eq_of_locate (h : d.FoundAt base f top ns) (hhome : d'.home = d.home) {suf : String}
    (hs : PlainSuffix suf) (hq : d'.locate (f ++ suf) = .ok q) :
    ∃ init name, ns = init ++ [name] ∧ Tree.isSourceName name = true ∧
      q = top ++ init ++ [name ++ suf] := by
  obtain ⟨init, name, rfl, hname⟩ := h.exists_concat
  have hnames : ∀ n ∈ init, Tree.IsName n := fun n hn => h.isName n (List.mem_append_left _ hn)
  have hlast : Tree.IsName name := h.isName name (by simp)
  have hsuf : Tree.IsName (name ++ suf) := Path.isName_append hlast hs.1
  have hjoin : f ++ suf = Path.join (init.foldl Path.join base) (name ++ suf) := by
    rw [h.path, List.foldl_append, List.foldl_cons, List.foldl_nil, Path.join_append hlast hs.1]
  have hstart : d'.start base = d.start base := by rw [start, start, hhome]
  obtain ⟨-, -, -, hw⟩ := locate_eq_ok.1 hq
  obtain ⟨-, -, -, hbase⟩ := locate_eq_ok.1 h.atTop
  rw [hjoin, start_join hsuf, start_foldl_join hnames, hstart, Path.parts_join hsuf,
    Path.parts_foldl_join hnames] at hw
  refine ⟨init, name, rfl, hname, ?_⟩
  rw [eq_of_walk hw, List.foldl_append, List.foldl_append, ← eq_of_walk hbase, foldl_enter hnames,
    List.foldl_cons, List.foldl_nil, enter_of_isName hsuf]

theorem path_eq {f' : String} {ms : List String} (h : d.FoundAt base f top ns)
    (h' : d.FoundAt base f' q ms) (he : top ++ ns = q ++ ms) : f = f' := by
  obtain rfl : top = q := Except.ok.inj (h.atTop.symm.trans h'.atTop)
  obtain rfl := List.append_cancel_left he
  rw [h.path, h'.path]

end FoundAt

theorem nodup_findSources (hd : d.root.Proper) (base : String) :
    (d.findSources base).1.Nodup := by
  by_cases h : d.hasDir base = true ∧ isStandardInput base = false
  · obtain ⟨es, he⟩ := hasDir_iff.1 h.1
    obtain ⟨top, -, ht, -⟩ := lookup_eq_ok.1 he
    rw [findSources_of_lookup he h.2]
    refine List.Nodup.map_on ?_ (Tree.nodup_sources (hd.of_at? ht))
    intro ns hns ms hms hpath
    have hnames (ns) (hns : ns ∈ (Tree.dir es).sources) : ∀ n ∈ ns, Tree.IsName n := by
      obtain ⟨⟨b, hb⟩, -⟩ := (Tree.mem_sources (hd.of_at? ht)).1 hns
      refine (hd.of_at? ht).isName_of_at? ?_
      rw [Tree.nodeAt?_eq_file.1 hb]
      exact Option.some_ne_none _
    have hparts := congrArg Path.parts hpath
    rw [Path.parts_foldl_join (hnames ns hns), Path.parts_foldl_join (hnames ms hms)] at hparts
    exact List.append_cancel_left hparts
  · rw [findSources_eq_nil h]
    exact List.nodup_nil

/-- The scan tells no more of a disk than its directories and the places of files with a source
name. -/
theorem findSources_congr (hd : d.root.Proper) (hd' : d'.root.Proper) (h : d.SameDirs d')
    (hfiles : ∀ dir name, Tree.isSourceName name = true →
      ((∃ b, d.root.nodeAt? (dir ++ [name]) = some (.file b)) ↔
        ∃ b, d'.root.nodeAt? (dir ++ [name]) = some (.file b))) (base : String) :
    (d'.findSources base).1 = (d.findSources base).1 := by
  by_cases hdir : ∃ es, d.lookup base = .ok (.dir es)
  · obtain ⟨es, he⟩ := hdir
    obtain ⟨top, hl, ht, hs⟩ := lookup_eq_ok.1 he
    obtain ⟨es', ht'⟩ := Tree.nodeAt?_eq_dir.1 ((h.dirs top).2 (Tree.nodeAt?_eq_dir.2 ⟨es, ht⟩))
    have he' : d'.lookup base = .ok (.dir es') :=
      lookup_eq_ok.2 ⟨top, h.locate hl, ht', fun _ => rfl⟩
    have hsame : (Tree.dir es').sources = (Tree.dir es).sources := by
      refine Tree.sources_congr (hd'.of_at? ht') (hd.of_at? ht) ?_
      rintro ns ⟨name, hlast, hname⟩
      obtain ⟨init, rfl⟩ := List.getLast?_eq_some_iff.1 hlast
      have hiff := hfiles (top ++ init) name hname
      rw [List.append_assoc, Tree.nodeAt?_append, Tree.nodeAt?_append, ht, ht'] at hiff
      exact hiff.symm
    rw [findSources, findSources, he, he']
    simp only [hsame]
  · have hdir' : ¬ ∃ es, d'.lookup base = .ok (.dir es) := by
      rintro ⟨es', he'⟩
      obtain ⟨top, hl, ht, hs⟩ := lookup_eq_ok.1 he'
      obtain ⟨es, ht'⟩ := Tree.nodeAt?_eq_dir.1 ((h.dirs top).1 (Tree.nodeAt?_eq_dir.2 ⟨es', ht⟩))
      exact hdir ⟨es, lookup_eq_ok.2 ⟨top, h.symm.locate hl, ht', fun _ => rfl⟩⟩
    rw [findSources_eq_nil fun h => hdir (hasDir_iff.1 h.1),
      findSources_eq_nil fun h => hdir' (hasDir_iff.1 h.1)]

/-- A source of one disk is a source of another where its path leads to a file. -/
theorem mem_findSources_of_node? (hd : d.root.Proper) (hd' : d'.root.Proper)
    (hhome : d'.home = d.home) (hf : f ∈ (d.findSources base).1) {b : Utf8.Bytes}
    (hb : d'.node? f = some (.file b)) : f ∈ (d'.findSources base).1 := by
  obtain ⟨top, ns, h⟩ := (mem_findSources_iff hd).1 hf
  obtain ⟨q, hl, hnode, -⟩ := node?_eq_some.1 hb
  obtain ⟨-, hnul, hlen, hw⟩ := locate_eq_ok.1 hl
  obtain ⟨hne, hnul', hlen', hw'⟩ := locate_eq_ok.1 h.atTop
  have hstart : d'.start base = d.start base := by rw [start, start, hhome]
  rw [h.path, start_foldl_join h.isName, Path.parts_foldl_join h.isName, walk_append] at hw
  cases hbase : walk d'.root (d'.start base) (Path.parts base) with
  | error c => simp [hbase, Except.bind] at hw
  | ok top' =>
    rw [hbase] at hw
    have htop : top' = top := by rw [eq_of_walk hbase, eq_of_walk hw', hstart]
    have hq : q = top ++ ns := by
      rw [← htop, eq_of_walk hw, foldl_enter h.isName]
    rw [hq] at hnode
    exact (mem_findSources_iff hd').2 ⟨top, ns, h.notInput,
      locate_eq_ok.2 ⟨hne, hnul', hlen', htop ▸ hbase⟩, h.path, h.isName, h.ends, b, hnode⟩

end Disk

end Byline
