import Byline.Proofs.Storage.Sources
import Byline.Proofs.Text.Utf8

/-!
# What a scan finds

A scan of a directory finds each file below it, at any depth, whose name is a stem with the source
extension, and it finds each once. Two sources come in the order of the octets of the first names in
which their paths differ (`Disk.findSources_exact_ordered`). That is not the order of the paths as
strings: the files of a directory come before a file whose name goes on after that of the directory.

A directory whose path is a dash is not looked at, since a dash stands for the standard input
(`Disk.findSources_standardInput`).
-/

namespace Byline

namespace Path

/-! ## The path of the standard input -/

/-- The path is a dash with nothing after it that leads on. -/
def IsDash (path : String) : Prop :=
  ∃ idle, pieces path.toList = ['-'] :: idle ∧ ∀ p ∈ idle, p = [] ∨ p = ['.']

theorem dropIdle_eq_singleton_iff {ps : List (List Char)} {p : List Char}
    (hp : (p.isEmpty || p == ['.']) = false) :
    dropIdle ps = [p] ↔ ∃ idle, ps = p :: idle ∧ ∀ q ∈ idle, q = [] ∨ q = ['.'] := by
  have hidle (q : List Char) : (q.isEmpty || q == ['.']) = true ↔ q = [] ∨ q = ['.'] := by simp
  rw [dropIdle, List.reverse_eq_iff, List.reverse_singleton]
  constructor
  · intro h
    have hsplit := List.takeWhile_append_dropWhile (p := fun q => q.isEmpty || q == ['.'])
      (l := ps.reverse)
    rw [h] at hsplit
    refine ⟨_, by simpa using congrArg List.reverse hsplit.symm, fun q hq => (hidle q).1 ?_⟩
    exact List.mem_takeWhile_imp (p := fun q => q.isEmpty || q == ['.']) (List.mem_reverse.1 hq)
  · rintro ⟨idle, rfl, h⟩
    rw [List.reverse_cons, List.dropWhile_append_of_pos, List.dropWhile_cons_of_neg (by simp [hp])]
    exact fun q hq => (hidle q).2 (h q (List.mem_reverse.1 hq))

/-- A dash is a path that starts in the working directory. -/
theorem IsDash.isAbsolute_eq {path : String} (h : IsDash path) : isAbsolute path = false := by
  obtain ⟨idle, hpieces, -⟩ := h
  rw [isAbsolute]
  cases hpath : path.toList with
  | nil => rfl
  | cons c s =>
    rw [List.head?_cons, Option.some_beq_some, beq_eq_false_iff_ne]
    rintro rfl
    rw [hpath, pieces, if_pos rfl] at hpieces
    simp at hpieces

theorem body_eq_dash_iff {path : String} : body path = [['-']] ↔ IsDash path := by
  rw [IsDash, ← dropIdle_eq_singleton_iff (by decide), body]
  split
  · next h =>
    have hnil : dropIdle (pieces path.toList) = [] := by
      rw [Bool.and_eq_true] at h
      exact List.isEmpty_iff.1 h.1
    simp [hnil]
  · rfl

/-! ## The order of paths -/

/-- The first names in which the paths differ come in the order of their octets. -/
def Before (ns ms : List String) : Prop :=
  ∃ shared n m below below', ns = shared ++ n :: below ∧ ms = shared ++ m :: below' ∧
    Utf8.ofString n < Utf8.ofString m

/-- Of two paths in order, part by part, the one leads below the other or they differ in a name. -/
theorem prefix_or_before {ns ms : List String} (h : ns < ms) :
    (∃ below, below ≠ [] ∧ ms = ns ++ below) ∨ Before ns ms := by
  have hlex : List.Lex (· < ·) ns ms := h
  clear h
  induction hlex with
  | @nil m ms => exact .inl ⟨m :: ms, List.cons_ne_nil m ms, rfl⟩
  | @rel n ns m ms hlt => exact .inr ⟨[], n, m, ns, ms, rfl, rfl, Utf8.ofString_lt_ofString_iff.2 hlt⟩
  | @cons n ns ms _ ih =>
    rcases ih with ⟨below, hne, rfl⟩ | ⟨shared, x, y, below, below', rfl, rfl, hlt⟩
    · exact .inl ⟨below, hne, rfl⟩
    · exact .inr ⟨n :: shared, x, y, below, below', rfl, rfl, hlt⟩

end Path

namespace Tree

variable {t : Tree} {ns : List String}

/-- The names lead to a file whose name is a stem, not empty, with the source extension. -/
def HasSource (t : Tree) (ns : List String) : Prop :=
  (∃ b, t.at? ns = some (.file b)) ∧ ∃ stem, stem ≠ "" ∧ ns.getLast? = some (stem ++ ".java")

theorem mem_sources_iff_hasSource {es : List (String × Tree)} (ht : (dir es).Proper) :
    ns ∈ (dir es).sources ↔ (dir es).HasSource ns := by
  have hends : EndsInSource ns ↔ ∃ stem, stem ≠ "" ∧ ns.getLast? = some (stem ++ ".java") := by
    constructor
    · rintro ⟨name, hlast, hname⟩
      obtain ⟨stem, hne, rfl⟩ := isSourceName_iff.1 hname
      exact ⟨stem, hne, hlast⟩
    · rintro ⟨stem, hne, hlast⟩
      exact ⟨_, hlast, isSourceName_iff.2 ⟨stem, hne, rfl⟩⟩
  rw [mem_sources ht, hends]
  simp only [nodeAt?_eq_file, HasSource]

/-- Nothing is below a file. -/
theorem HasSource.eq_nil_of_append {below : List String} (h : t.HasSource ns)
    (h' : t.HasSource (ns ++ below)) : below = [] := by
  obtain ⟨⟨b, hb⟩, -⟩ := h
  obtain ⟨⟨b', hb'⟩, -⟩ := h'
  by_contra hne
  have hnode : t.nodeAt? (ns ++ below) ≠ none := by
    rw [nodeAt?_eq_file.2 hb']
    exact Option.some_ne_none _
  have hdir := nodeAt?_of_append hne hnode
  rw [nodeAt?_eq_file.2 hb] at hdir
  simp at hdir

theorem pairwise_before_sources {es : List (String × Tree)} (ht : (dir es).Proper) :
    (dir es).sources.Pairwise Path.Before := by
  refine (sources_pairwise ht).imp_of_mem fun {ns ms} hns hms hlt => ?_
  rcases Path.prefix_or_before hlt with ⟨below, hne, rfl⟩ | hbefore
  · have hns := (mem_sources_iff_hasSource ht).1 hns
    have hms := (mem_sources_iff_hasSource ht).1 hms
    exact absurd (hns.eq_nil_of_append hms) hne
  · exact hbefore

end Tree

namespace Disk

variable {d : Disk} {base : String}

theorem isStandardInput_iff : isStandardInput base = true ↔ Path.IsDash base := by
  rw [isStandardInput, Bool.and_eq_true, beq_iff_eq, Path.body_eq_dash_iff, Bool.not_eq_true']
  exact ⟨And.right, fun h => ⟨h.isAbsolute_eq, h⟩⟩

instance (path : String) : Decidable (Path.IsDash path) := decidable_of_iff _ isStandardInput_iff

/-- A scan of a directory finds exactly the sources below it, each once and in the order of the
first names in which their paths differ. A scan of what is not a directory finds nothing, and
neither does the scan of a dash. -/
theorem findSources_exact_ordered (hd : d.root.Proper) (base : String) :
    (d.hasDir base = true → ¬ Path.IsDash base →
      ∃ (t : Tree) (nss : List (List String)), d.lookup base = .ok t ∧
        (d.findSources base).1 = nss.map (·.foldl Path.join base) ∧
        (d.findSources base).1.Nodup ∧
        (∀ ns, ns ∈ nss ↔ t.HasSource ns) ∧
        nss.Pairwise Path.Before) ∧
    (d.hasDir base = false ∨ Path.IsDash base → (d.findSources base).1 = []) := by
  constructor
  · intro hdir hdash
    have hs : isStandardInput base = false := by
      rwa [← isStandardInput_iff, Bool.not_eq_true] at hdash
    obtain ⟨es, hes⟩ := hasDir_iff.1 hdir
    obtain ⟨place, -, hplace, -⟩ := lookup_eq_ok.1 hes
    have ht : (Tree.dir es).Proper := hd.of_at? hplace
    exact ⟨.dir es, (Tree.dir es).sources, hes, findSources_of_lookup hes hs,
      nodup_findSources hd base, fun ns => Tree.mem_sources_iff_hasSource ht,
      Tree.pairwise_before_sources ht⟩
  · rintro (hdir | hdash)
    · exact findSources_eq_nil fun h => by simp [hdir] at h
    · exact findSources_eq_nil fun h => by simp [isStandardInput_iff.2 hdash] at h

/-- A directory with a hidden directory, a file that has no stem, and directories that are named like
a source and like what stands before the dot in one. -/
def mixedDisk : Disk :=
  { root := .dir [("p", .dir [(".gitignore", .file (Utf8.ofString "a/\n")),
      (".hidden", .dir [("H.java", .file [])]), (".java", .file []),
      ("a", .dir [("b.java", .file []), ("b.java.at-save", .file [])]),
      ("a.java", .file []), ("x.java", .dir [("B.java", .file [])])])]
    home := [] }

theorem findSources_exact_ordered_mixedDisk :
    mixedDisk.root.Proper ∧
      (mixedDisk.findSources "p").1 =
        ["p/.hidden/H.java", "p/a/b.java", "p/a.java", "p/x.java/B.java"] ∧
      ∃ (t : Tree) (nss : List (List String)), mixedDisk.lookup "p" = .ok t ∧
        (mixedDisk.findSources "p").1 = nss.map (·.foldl Path.join "p") ∧
        (∀ ns, ns ∈ nss ↔ t.HasSource ns) ∧ nss.Pairwise Path.Before := by
  have hd : mixedDisk.root.Proper := by decide +kernel
  obtain ⟨t, nss, hlookup, hfound, -, hmem, hordered⟩ :=
    (findSources_exact_ordered hd "p").1 (by decide +kernel) (by decide +kernel)
  refine ⟨hd, ?_, t, nss, hlookup, hfound, hmem, hordered⟩
  rw [findSources_of_lookup rfl (by decide)]
  simp (disch := decide) only [Tree.sources, Tree.sourcesIn, Tree.sourcesAt,
    Tree.byName_of_pairwise]
  decide +kernel

/-- A directory whose name is a dash. -/
def dashDisk : Disk := { root := .dir [("-", .dir [("A.java", .file [])])], home := [] }

/-- A source below a directory is not found. -/
theorem findSources_standardInput :
    dashDisk.root.Proper ∧ dashDisk.hasDir "-" = true ∧
      (∃ t, dashDisk.lookup "-" = .ok t ∧ t.HasSource ["A.java"]) ∧
      (dashDisk.findSources "-").1 = [] := by
  refine ⟨by decide +kernel, by decide +kernel, ⟨_, rfl, ⟨[], rfl⟩, "A", by decide, rfl⟩, ?_⟩
  exact findSources_eq_nil (by decide +kernel)

end Disk

end Byline
