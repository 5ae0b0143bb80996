import Byline.Proofs.Storage.Node
import Byline.Storage.Disk

/-!
# Places of paths

A path leads to its place through directories, and nothing else on the disk matters
(`Disk.walk_of_dirs`). `Disk.Seats` says that a path ends with a name in a directory that is there.
A suffix to the path is then a suffix to the name (`Disk.Seats.locate`): what is looked up is the
place in the same directory, unless it has become too long.
-/

namespace Byline

namespace Path

variable {base name : String}

theorem pieces_ne_nil (s : List Char) : pieces s ≠ [] := by
  cases s with
  | nil => simp [pieces]
  | cons c s =>
    rw [pieces]
    split
    · simp
    · split <;> simp

theorem pieces_append (s t : List Char) : pieces (s ++ '/' :: t) = pieces s ++ pieces t := by
  induction s with
  | nil => simp [pieces]
  | cons c s ih =>
    by_cases hc : c = '/'
    · simp [pieces, hc, ih]
    · cases hs : pieces s with
      | nil => exact absurd hs (pieces_ne_nil s)
      | cons p ps => simp [pieces, hc, ih, hs]

theorem pieces_of_notMem {s : List Char} (h : '/' ∉ s) : pieces s = [s] := by
  induction s with
  | nil => rfl
  | cons c s ih =>
    rw [List.mem_cons, not_or] at h
    have hne : ¬ c = '/' := fun e => h.1 e.symm
    rw [pieces, if_neg hne, ih h.2]

theorem cutName_append (stem : List Char) {ext : List Char} (he : '.' ∉ ext) :
    cutName (stem ++ '.' :: ext) =
      if stem ≠ [] ∧ stem ++ '.' :: ext ≠ ['.', '.'] then (stem, some ext)
      else (stem ++ '.' :: ext, none) := by
  have hext : ((stem ++ '.' :: ext).reverse.takeWhile (· != '.')).reverse = ext := by
    have hall : ∀ c ∈ ext.reverse, (c != '.') = true := by
      intro c hc
      rw [bne_iff_ne]
      rintro rfl
      exact he (List.mem_reverse.1 hc)
    rw [List.reverse_append, List.reverse_cons, List.append_assoc, List.takeWhile_append_of_pos hall]
    simp
  have hstem : (stem ++ '.' :: ext).take ((stem ++ '.' :: ext).length - ext.length - 1) = stem := by
    have hlen : (stem ++ '.' :: ext).length - ext.length - 1 = stem.length := by
      rw [List.length_append, List.length_cons]
      omega
    rw [hlen, List.take_left]
  rw [cutName, hext, hstem]
  simp

theorem cutName_of_notMem {name : List Char} (h : '.' ∉ name) : cutName name = (name, none) := by
  simp [cutName, h]

theorem isAbsolute_of_notMem (h : '/' ∉ name.toList) : isAbsolute name = false := by
  unfold isAbsolute
  cases hn : name.toList with
  | nil => rfl
  | cons c s =>
    rw [hn] at h
    simpa using fun e : c = '/' => h (e ▸ List.mem_cons_self)

theorem isAbsolute_of_isName (h : Tree.IsName name) : isAbsolute name = false :=
  isAbsolute_of_notMem h.2.1

theorem isName_append (h : Tree.IsName name) {suf : String} (hs : '/' ∉ suf.toList) :
    Tree.IsName (name ++ suf) := by
  obtain ⟨hne, hslash, hdot, hdots⟩ := h
  have hl : name.toList ≠ [] := by simpa using hne
  have hd : name.toList ≠ ['.'] := fun e => hdot (String.toList_injective e)
  have hdd : name.toList ≠ ['.', '.'] := fun e => hdots (String.toList_injective e)
  obtain ⟨c, s, hcs⟩ := List.exists_cons_of_ne_nil hl
  refine ⟨?_, ?_, ?_, ?_⟩
  · simp [hne]
  · simp [hslash, hs]
  · intro e
    have := congrArg String.toList e
    rw [String.toList_append, hcs] at this
    simp only [show ".".toList = ['.'] from rfl, List.cons_append, List.cons.injEq,
      List.append_eq_nil_iff] at this
    obtain ⟨rfl, rfl, -⟩ := this
    exact hd hcs
  · intro e
    have := congrArg String.toList e
    rw [String.toList_append, hcs] at this
    simp only [show "..".toList = ['.', '.'] from rfl, List.cons_append, List.cons.injEq,
      List.append_eq_singleton_iff] at this
    obtain ⟨rfl, ⟨rfl, -⟩ | ⟨rfl, -⟩⟩ := this
    · exact hd hcs
    · exact hdd hcs

/-- What `join` puts before a name. -/
theorem exists_join (base : String) : ∃ pre : List Char,
    (∀ name, isAbsolute name = false → (join base name).toList = pre ++ name.toList) ∧
      (pre = [] ∧ base = "" ∨
        base ≠ "" ∧ ∃ l, pre = l ++ ['/'] ∧ (base.toList = l ∨ base.toList = l ++ ['/'])) := by
  by_cases he : base = ""
  · refine ⟨[], ?_, .inl ⟨rfl, he⟩⟩
    intro name hn
    simp [join, hn, he]
  by_cases hs : endsWithSlash base = true
  · obtain ⟨l, hl⟩ : ∃ l, base.toList = l ++ ['/'] := by
      rw [endsWithSlash, beq_iff_eq, List.getLast?_eq_some_iff] at hs
      exact hs
    refine ⟨base.toList, ?_, .inr ⟨he, l, hl, .inr hl⟩⟩
    intro name hn
    simp [join, hn, hs]
  · refine ⟨base.toList ++ ['/'], ?_, .inr ⟨he, base.toList, rfl, .inl rfl⟩⟩
    intro name hn
    have he' : base.isEmpty = false := by simpa using he
    simp [join, hn, he', hs]

/-- A part may be a dot or two. -/
theorem parts_join_of_ne (hne : name ≠ "") (hs : '/' ∉ name.toList) :
    parts (join base name) = parts base ++ [name] := by
  obtain ⟨pre, hj, hpre⟩ := exists_join base
  have hname : pieces name.toList = [name.toList] := pieces_of_notMem hs
  have he : name.toList.isEmpty = false := by simpa using hne
  have hone : parts name = [name] := by simp [parts, hname, he, String.ofList_toList]
  rw [parts, hj name (isAbsolute_of_notMem hs)]
  rcases hpre with ⟨rfl, rfl⟩ | ⟨-, l, rfl, hbase⟩
  · exact hone
  · have hp : parts base = ((pieces l).filter (!·.isEmpty)).map String.ofList := by
      rcases hbase with hb | hb
      · rw [parts, hb]
      · rw [parts, hb, pieces_append]
        simp [pieces]
    rw [hp, List.append_assoc, List.singleton_append, pieces_append, List.filter_append,
      List.map_append]
    exact congrArg _ hone

theorem parts_join (h : Tree.IsName name) : parts (join base name) = parts base ++ [name] :=
  parts_join_of_ne h.1 h.2.1

theorem isAbsolute_join (h : Tree.IsName name) : isAbsolute (join base name) = isAbsolute base := by
  have hn := isAbsolute_of_isName h
  obtain ⟨pre, hj, hpre⟩ := exists_join base
  rw [isAbsolute, hj name hn]
  rcases hpre with ⟨rfl, rfl⟩ | ⟨hne, l, rfl, hbase⟩
  · exact hn
  · unfold isAbsolute
    rcases hbase with hb | hb
    · obtain ⟨c, s, hcs⟩ := List.exists_cons_of_ne_nil
        (show base.toList ≠ [] by simpa using hne)
      rw [← hb, hcs]
      rfl
    · rw [hb]
      cases l <;> rfl

theorem endsWithSlash_join (h : Tree.IsName name) : endsWithSlash (join base name) = false := by
  obtain ⟨pre, hj, -⟩ := exists_join base
  have hne : name.toList ≠ [] := by simpa using h.1
  rw [endsWithSlash, hj name (isAbsolute_of_isName h), List.getLast?_append_of_ne_nil _ hne]
  have hlast : name.toList.getLast hne ≠ '/' := by
    intro e
    exact h.2.1 (e ▸ List.getLast_mem hne)
  rw [List.getLast?_eq_getLast_of_ne_nil hne]
  simpa using hlast

theorem join_append (h : Tree.IsName name) {suf : String} (hs : '/' ∉ suf.toList) :
    join base (name ++ suf) = join base name ++ suf := by
  rw [join, join, isAbsolute_of_isName h, isAbsolute_of_isName (isName_append h hs)]
  simp only [Bool.false_eq_true, if_false]
  split <;> simp only [String.append_assoc]

theorem join_ne_empty (h : Tree.IsName name) : join base name ≠ "" := by
  obtain ⟨pre, hj, -⟩ := exists_join base
  intro e
  have := congrArg String.toList e
  rw [hj name (isAbsolute_of_isName h)] at this
  have hempty : pre = [] ∧ name = "" := by simpa using this
  exact h.1 hempty.2

end Path

namespace Disk

variable {d d' : Disk} {root root' : Tree} {place q : List String} {path name suf : String}

/-- The place from which a path leads on. -/
def start (d : Disk) (path : String) : List String :=
  if Path.isAbsolute path then [] else d.home

theorem enter_of_isName (h : Tree.IsName name) (place : List String) :
    enter place name = place ++ [name] := by
  rw [enter, if_neg h.2.2.1, if_neg h.2.2.2]

theorem foldl_enter {ns : List String} (h : ∀ n ∈ ns, Tree.IsName n) (place : List String) :
    ns.foldl enter place = place ++ ns := by
  induction ns generalizing place with
  | nil => simp
  | cons n ns ih =>
    rw [List.foldl_cons, enter_of_isName (h n List.mem_cons_self),
      ih fun m hm => h m (List.mem_cons_of_mem n hm), List.append_assoc, List.singleton_append]

theorem walk_cons (root : Tree) (place : List String) (part : String) (parts : List String) :
    walk root place (part :: parts) =
      match root.nodeAt? place with
      | none => .error .notFound
      | some (.file _) => .error .notDirectory
      | some .dir =>
        if nameLimit < part.utf8ByteSize then .error .nameTooLong
        else walk root (enter place part) parts := by
  rw [walk, Tree.nodeAt?]
  cases root.at? place with
  | none => rfl
  | some t => cases t <;> rfl

theorem walk_append (root : Tree) (place xs ys : List String) :
    walk root place (xs ++ ys) = (walk root place xs).bind fun q => walk root q ys := by
  induction xs generalizing place with
  | nil => rfl
  | cons x xs ih =>
    rw [List.cons_append, walk_cons, walk_cons]
    cases root.nodeAt? place with
    | none => rfl
    | some n =>
      cases n with
      | file b => rfl
      | dir =>
        simp only
        split
        · rfl
        · exact ih _

/-- Only directories are on the way to a place. -/
theorem walk_of_dirs {parts : List String}
    (hd : ∀ p, root.nodeAt? p = some .dir → root'.nodeAt? p = some .dir)
    (h : walk root place parts = .ok q) : walk root' place parts = .ok q := by
  induction parts generalizing place with
  | nil => exact h
  | cons part parts ih =>
    rw [walk_cons] at h ⊢
    cases hp : root.nodeAt? place with
    | none => simp [hp] at h
    | some n =>
      cases n with
      | file b => simp [hp] at h
      | dir =>
        rw [hp] at h
        rw [hd place hp]
        simp only at h ⊢
        split at h
        · simp at h
        · next hlen => rw [if_neg hlen]; exact ih h

/-- The place of a path is in its parts. -/
theorem eq_of_walk {parts : List String} (h : walk root place parts = .ok q) :
    q = parts.foldl enter place := by
  induction parts generalizing place with
  | nil => exact (Except.ok.inj h).symm
  | cons part parts ih =>
    rw [walk_cons] at h
    split at h
    · simp at h
    · simp at h
    · split at h
      · simp at h
      · exact ih h

theorem locate_eq (hne : path ≠ "") (hnul : '\x00' ∉ path.toList) (d : Disk) :
    d.locate path = if pathLimit ≤ path.utf8ByteSize then .error .nameTooLong
      else walk d.root (d.start path) (Path.parts path) := by
  have he : path.isEmpty = false := by simpa using hne
  have hc : path.toList.contains '\x00' = false := by simpa using hnul
  rw [locate, origin, if_neg (by rw [hc]; exact Bool.false_ne_true), if_neg (by simp [he])]
  split <;> rfl

theorem target_eq {path : String} (h : Path.endsWithSlash path = false) (d : Disk) :
    d.target path = d.locate path >>= fun place =>
      match d.root.at? place with
      | some (.dir _) => .error .isDirectory
      | some (.file b) => .ok (place, some b)
      | none => .ok (place, none) := by
  rw [target, locate, h]
  cases d.origin path <;> rfl

theorem start_join {base : String} (h : Tree.IsName name) (d : Disk) :
    d.start (Path.join base name) = d.start base := by
  rw [start, start, Path.isAbsolute_join h]

end Disk

/-- A path that ends with a name in a directory, and the place of that directory. -/
structure Seat where
  path : String
  dir : List String
  name : String

namespace Seat

/-- The place of the name with a suffix. -/
def place (s : Seat) (suf : String) : List String := s.dir ++ [s.name ++ suf]

/-- Are the path and the name with the suffix of a length that a disk takes? -/
def Fits (s : Seat) (suf : String) : Prop :=
  (s.path ++ suf).utf8ByteSize < Disk.pathLimit ∧ (s.name ++ suf).utf8ByteSize ≤ Disk.nameLimit

instance (s : Seat) (suf : String) : Decidable (s.Fits suf) := inferInstanceAs (Decidable (_ ∧ _))

theorem place_injective {s s' : Seat} {suf suf' : String} (h : s.place suf = s'.place suf') :
    s.dir = s'.dir ∧ s.name ++ suf = s'.name ++ suf' := by
  obtain ⟨hdir, hn⟩ := List.append_inj' h rfl
  exact ⟨hdir, List.singleton_injective hn⟩

@[simp]
theorem place_ne_nil (s : Seat) (suf : String) : s.place suf ≠ [] := by simp [place]

theorem place_inj {s : Seat} {suf suf' : String} : s.place suf = s.place suf' ↔ suf = suf' := by
  constructor
  · intro h
    exact (String.append_right_inj s.name).1 (place_injective h).2
  · exact congrArg s.place

end Seat

/-- A suffix that can stand in a name. -/
def PlainSuffix (suf : String) : Prop := '/' ∉ suf.toList ∧ '\x00' ∉ suf.toList

instance (suf : String) : Decidable (PlainSuffix suf) := inferInstanceAs (Decidable (_ ∧ _))

namespace Disk

variable {d d' : Disk} {s : Seat} {suf : String}

/-- The path leads to its name through directories that are there. -/
structure Seats (d : Disk) (s : Seat) : Prop where
  isName : Tree.IsName s.name
  noNul : '\x00' ∉ s.path.toList
  inDir : d.root.nodeAt? s.dir = some .dir
  exists_base : ∃ base, s.path = Path.join base s.name ∧
    walk d.root (d.start base) (Path.parts base) = .ok s.dir

namespace Seats

theorem isName_append (h : d.Seats s) (hs : PlainSuffix suf) : Tree.IsName (s.name ++ suf) :=
  Path.isName_append h.isName hs.1

theorem endsWithSlash (h : d.Seats s) (hs : PlainSuffix suf) :
    Path.endsWithSlash (s.path ++ suf) = false := by
  obtain ⟨base, hpath, -⟩ := h.exists_base
  rw [hpath, ← Path.join_append h.isName hs.1]
  exact Path.endsWithSlash_join (h.isName_append hs)

/-- Where a path with a suffix leads to. -/
theorem locate (h : d.Seats s) (hs : PlainSuffix suf) :
    d.locate (s.path ++ suf) = if s.Fits suf then .ok (s.place suf) else .error .nameTooLong := by
  obtain ⟨base, hpath, hwalk⟩ := h.exists_base
  have hname := h.isName_append hs
  have hnul : '\x00' ∉ (s.path ++ suf).toList := by
    rw [String.toList_append, List.mem_append, not_or]
    exact ⟨h.noNul, hs.2⟩
  have hjoin : s.path ++ suf = Path.join base (s.name ++ suf) := by
    rw [hpath, Path.join_append h.isName hs.1]
  have hne : s.path ++ suf ≠ "" := hjoin ▸ Path.join_ne_empty hname
  rw [locate_eq hne hnul]
  by_cases hl : pathLimit ≤ (s.path ++ suf).utf8ByteSize
  · rw [if_pos hl, if_neg fun hf => absurd hf.1 (by omega)]
  · rw [if_neg hl, hjoin, start_join hname, Path.parts_join hname, walk_append, hwalk]
    change walk d.root s.dir [s.name ++ suf] = _
    rw [walk_cons, h.inDir]
    simp only [walk, enter_of_isName hname]
    by_cases hn : nameLimit < (s.name ++ suf).utf8ByteSize
    · rw [if_pos hn, if_neg fun hf => absurd hf.2 (by omega)]
    · rw [if_neg hn, if_pos ⟨by omega, by omega⟩]
      rfl

/-- A path keeps its seat while the directories stay. -/
theorem of_dirs (h : d.Seats s) (hhome : d'.home = d.home)
    (hd : ∀ p, d.root.nodeAt? p = some .dir → d'.root.nodeAt? p = some .dir) : d'.Seats s := by
  obtain ⟨base, hpath, hwalk⟩ := h.exists_base
  refine ⟨h.isName, h.noNul, hd _ h.inDir, base, hpath, ?_⟩
  have hstart : d'.start base = d.start base := by rw [start, start, hhome]
  rw [hstart]
  exact walk_of_dirs hd hwalk

end Seats

end Disk

end Byline
