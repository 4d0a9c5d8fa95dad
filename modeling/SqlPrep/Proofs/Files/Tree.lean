import Mathlib.Data.List.Induction
import SqlPrep.Files.Tree
import SqlPrep.Proofs.Result

/-!
# What stands where in a file tree

A tree seen from outside: at each place a directory, a file with its content, or nothing. Making a
directory adds directories on the way of its path and nothing else; writing a file changes what
stands where its path leads and nothing else. Both keep every directory where it is, so a path that
leads somewhere leads to the same place afterwards.
-/

namespace SqlPrep.Files

namespace Path

/-- A path is that of the root, or has a last step. -/
theorem eq_nil_or_append (path : Path) :
    path = [] ∨ ∃ directory step, path = directory ++ [step] := by
  rcases List.eq_nil_or_concat path with rfl | ⟨directory, step, rfl⟩
  · exact .inl rfl
  · exact .inr ⟨directory, step, List.concat_eq_append⟩

/-- The parent of a path is what stands in front of its last step. -/
@[simp] theorem parent_append (directory : Path) (step : Step) :
    parent (directory ++ [step]) = directory :=
  List.dropLast_concat

/-- The parent of a path is a beginning of it. -/
theorem parent_isPrefix (path : Path) : path.parent <+: path :=
  List.dropLast_prefix path

/-- A beginning of a path without null characters has none either. -/
theorem hasNull_of_isPrefix {steps path : Path} (h : steps <+: path)
    (hpath : path.hasNull = false) : steps.hasNull = false := by
  simp only [hasNull, List.any_eq_false] at hpath ⊢
  exact fun step hstep => hpath step (h.subset hstep)

/-- A path without steps up is a row of names. -/
theorem exists_names {path : Path} (h : Step.up ∉ path) :
    ∃ place : Place, path = place.map .down := by
  induction path with
  | nil => exact ⟨[], rfl⟩
  | cons step path ih =>
    obtain ⟨hstep, hpath⟩ := not_or.mp (List.mem_cons.not.mp h)
    obtain ⟨place, rfl⟩ := ih hpath
    cases step with
    | up => exact absurd rfl hstep
    | down name => exact ⟨name :: place, rfl⟩

end Path

namespace Tree

/-! ## Entries of a directory -/

/-- An assigned entry is found under its name, any other one as before. -/
theorem lookup_putEntry (entries : List (String × Tree)) (name : String) (t : Tree)
    (other : String) :
    List.lookup other (putEntry entries name t) =
      if other = name then some t else List.lookup other entries := by
  induction entries with
  | nil =>
    by_cases h : other = name
    · simp [putEntry, h]
    · simp [putEntry, List.lookup_cons, h, beq_eq_false_iff_ne.mpr h]
  | cons entry rest ih =>
    obtain ⟨n, old⟩ := entry
    by_cases hn : n = name
    · subst hn
      by_cases h : other = n
      · simp [putEntry, h]
      · simp [putEntry, List.lookup_cons, h, beq_eq_false_iff_ne.mpr h]
    · rw [putEntry, if_neg hn, List.lookup_cons]
      by_cases h : other = n
      · subst h
        rw [beq_self_eq_true, if_neg hn, List.lookup_cons, beq_self_eq_true]
      · rw [beq_eq_false_iff_ne.mpr h, ih, List.lookup_cons, beq_eq_false_iff_ne.mpr h]

/-! ## What is found -/

/-- A tree itself stands at its root. -/
@[simp] theorem found?_nil (tree : Tree) : tree.found? [] = some tree.kind := by
  cases tree <;> rfl

/-- What stands in a directory stands in one of its entries. -/
theorem found?_directory_cons (entries : List (String × Tree)) (name : String) (place : Place) :
    (directory entries).found? (name :: place) =
      (List.lookup name entries).bind fun t => t.found? place := by
  simp only [found?, get?]
  cases List.lookup name entries <;> rfl

/-- What stands in a directory one of whose entries is assigned. -/
theorem found?_putEntry (entries : List (String × Tree)) (name : String) (t : Tree) (other : String)
    (place : Place) :
    (directory (putEntry entries name t)).found? (other :: place) =
      if other = name then t.found? place else (directory entries).found? (other :: place) := by
  rw [found?_directory_cons, lookup_putEntry, found?_directory_cons]
  by_cases h : other = name
  · rw [if_pos h, if_pos h, Option.bind_some]
  · rw [if_neg h, if_neg h]

/-- Things stand in directories only. -/
theorem directory_of_found? {tree : Tree} {place rest : Place} {e : Entry} (hrest : rest ≠ [])
    (h : tree.found? (place ++ rest) = some e) : tree.found? place = some .directory := by
  induction place generalizing tree with
  | nil =>
    obtain ⟨name, rest, rfl⟩ := List.exists_cons_of_ne_nil hrest
    cases tree with
    | file content => cases h
    | directory entries => rfl
  | cons first place ih =>
    cases tree with
    | file content => cases h
    | directory entries =>
      rw [List.cons_append, found?_directory_cons] at h
      obtain ⟨t, ht, hinner⟩ := Option.bind_eq_some_iff.mp h
      rw [found?_directory_cons, ht, Option.bind_some, ih hinner]

/-- Assigning an entry to the root, in the place of a file or of nothing, changes what stands at its
name, and nothing else. -/
theorem found?_putEntry_leaf {entries : List (String × Tree)} {t : Tree} {name : String}
    (hleaf : ∀ n q, t.found? (n :: q) = none)
    (hold : (directory entries).found? [name] ≠ some .directory) (q : Place) :
    (directory (putEntry entries name t)).found? q =
      if q = [name] then some t.kind else (directory entries).found? q := by
  cases q with
  | nil => rfl
  | cons other q =>
    rw [found?_putEntry]
    by_cases hname : other = name
    · subst hname
      cases q with
      | nil => simp
      | cons n q =>
        have hnone : (directory entries).found? ([other] ++ n :: q) = none :=
          Option.eq_none_iff_forall_ne_some.mpr fun e he =>
            hold (directory_of_found? (List.cons_ne_nil n q) he)
        rw [if_pos rfl, hleaf, if_neg (by simp)]
        exact hnone.symm
    · rw [if_neg hname, if_neg (by simp [hname])]

/-- Assigning an entry to a directory, in the place of a file or of nothing, changes what stands at
the place of the entry, and nothing else. -/
theorem found?_putAt {tree t : Tree} {place : Place} {name : String}
    (hplace : tree.found? place = some .directory) (hleaf : ∀ n q, t.found? (n :: q) = none)
    (hold : tree.found? (place ++ [name]) ≠ some .directory) (q : Place) :
    (tree.putAt place name t).found? q =
      if q = place ++ [name] then some t.kind else tree.found? q := by
  induction place generalizing tree q with
  | nil =>
    cases tree with
    | file content => cases hplace
    | directory entries =>
      exact found?_putEntry_leaf hleaf hold q
  | cons first place ih =>
    cases tree with
    | file content => cases hplace
    | directory entries =>
      rw [found?_directory_cons] at hplace
      obtain ⟨u, hu, hinner⟩ := Option.bind_eq_some_iff.mp hplace
      have hput : (directory entries).putAt (first :: place) name t =
          directory (putEntry entries first (u.putAt place name t)) := by
        simp only [putAt, update, hu]
      rw [List.cons_append, found?_directory_cons, hu, Option.bind_some] at hold
      rw [hput]
      cases q with
      | nil => rfl
      | cons other q =>
        rw [found?_putEntry]
        by_cases hname : other = first
        · subst hname
          rw [if_pos rfl, ih hinner hold, found?_directory_cons, hu, Option.bind_some]
          simp only [List.cons_append, List.cons.injEq, true_and]
        · rw [if_neg hname, if_neg (by simp [hname])]

/-! ## Trees that have what others have -/

/-- The second tree has everything that the first one has, as it is there. -/
def Keeps (before after : Tree) : Prop :=
  ∀ q e, before.found? q = some e → after.found? q = some e

/-- The second tree has a directory wherever the first one has, and something wherever the first one
has something. -/
structure Covers (before after : Tree) : Prop where
  directory : ∀ q, before.found? q = some .directory → after.found? q = some .directory
  stands : ∀ q, (before.found? q).isSome → (after.found? q).isSome

/-- A tree keeps what it has. -/
theorem Keeps.refl (tree : Tree) : tree.Keeps tree :=
  fun _ _ => id

@[inherit_doc Keeps.refl]
theorem Keeps.trans {t u v : Tree} (h : t.Keeps u) (h' : u.Keeps v) : t.Keeps v :=
  fun q e hq => h' q e (h q e hq)

/-- A tree that keeps what another one has covers it. -/
theorem Keeps.covers {before after : Tree} (h : before.Keeps after) : before.Covers after where
  directory q hq := h q _ hq
  stands q hq := by
    obtain ⟨e, he⟩ := Option.isSome_iff_exists.mp hq
    rw [h q e he]
    rfl

/-- A tree in which one place has changed, which was no directory, covers the one before. -/
theorem covers_of_found? {before after : Tree} {place : Place} {e : Entry}
    (hold : before.found? place ≠ some .directory)
    (h : ∀ q, after.found? q = if q = place then some e else before.found? q) :
    before.Covers after where
  directory q hq := by
    have hne : q ≠ place := fun heq => hold (heq ▸ hq)
    rw [h, if_neg hne, hq]
  stands q hq := by
    rw [h]
    by_cases hplace : q = place
    · rw [if_pos hplace]
      rfl
    · rwa [if_neg hplace]

/-- A tree in which something stands at one place, which was free, keeps what the one before has. -/
theorem keeps_of_found? {before after : Tree} {place : Place} {e : Entry}
    (hfree : before.found? place = none)
    (h : ∀ q, after.found? q = if q = place then some e else before.found? q) :
    before.Keeps after := by
  intro q f hq
  have hne : q ≠ place := by
    rintro rfl
    cases hfree.symm.trans hq
  rw [h, if_neg hne, hq]

/-! ## Where paths lead -/

variable {tree before after : Tree} {path steps : Path} {place q : Place} {name : String}
  {e : Entry}

/-- The places to which a step leads. -/
theorem enter_eq_ok {step : Step} : tree.enter place step = .ok q ↔
    tree.found? place = some .directory ∧
      ((step = .up ∧ q = place.dropLast) ∨
        ∃ name, step = .down name ∧ q = place ++ [name] ∧ (tree.found? q).isSome) := by
  unfold enter
  constructor
  · intro h
    split at h
    · cases h
    · cases h
    · next hplace =>
      cases h
      exact ⟨hplace, .inl ⟨rfl, rfl⟩⟩
    · next name hplace =>
      split at h
      · next hsome =>
        cases h
        exact ⟨hplace, .inr ⟨name, rfl, rfl, hsome⟩⟩
      · cases h
  · rintro ⟨hplace, ⟨rfl, rfl⟩ | ⟨name, rfl, rfl, hsome⟩⟩
    · simp only [hplace]
    · simp only [hplace, hsome, if_true]

/-- A longer path leads on from where its beginning leads. -/
theorem resolve_append (tree : Tree) (path : Path) (step : Step) :
    tree.resolve (path ++ [step]) = tree.resolve path >>= fun place => tree.enter place step := by
  simp [resolve, List.foldlM_append]

/-- Where a path leads, it also leads in a tree that covers this one. -/
theorem Covers.resolve (h : before.Covers after) (hpath : before.resolve path = .ok q) :
    after.resolve path = .ok q := by
  induction path using List.reverseRecOn generalizing q with
  | nil => exact hpath
  | append_singleton path step ih =>
    rw [resolve_append, bind_eq_ok] at hpath ⊢
    obtain ⟨place, hplace, hstep⟩ := hpath
    refine ⟨place, ih hplace, ?_⟩
    rw [enter_eq_ok] at hstep ⊢
    obtain ⟨hdirectory, hup | ⟨name, hname, hq, hsome⟩⟩ := hstep
    · exact ⟨h.directory place hdirectory, .inl hup⟩
    · exact ⟨h.directory place hdirectory, .inr ⟨name, hname, hq, h.stands q hsome⟩⟩

/-- Something stands where a path leads. -/
theorem stands?_eq_some :
    tree.stands? path = some e ↔
      path.hasNull = false ∧ ∃ q, tree.resolve path = .ok q ∧ tree.found? q = some e := by
  unfold stands?
  cases path.hasNull with
  | true => simp
  | false => cases tree.resolve path <;> simp

/-- The root stands in every tree. -/
theorem stands?_nil (tree : Tree) : tree.stands? [] = some tree.kind :=
  stands?_eq_some.mpr ⟨rfl, [], rfl, found?_nil tree⟩

/-- What stands where a path leads stands in a directory. -/
theorem stands?_parent (hpath : path ≠ []) (h : tree.stands? path = some e) :
    tree.stands? path.parent = some .directory := by
  obtain ⟨hnull, q, hq, -⟩ := stands?_eq_some.mp h
  have hparent := Path.hasNull_of_isPrefix path.parent_isPrefix hnull
  obtain ⟨directory, step, rfl⟩ := (Path.eq_nil_or_append path).resolve_left hpath
  rw [resolve_append, bind_eq_ok] at hq
  obtain ⟨place, hplace, hstep⟩ := hq
  rw [Path.parent_append] at hparent ⊢
  exact stands?_eq_some.mpr ⟨hparent, place, hplace, (enter_eq_ok.mp hstep).1⟩

/-- A row of names leads to what stands at the place of these names. -/
theorem resolve_names : tree.resolve (place.map .down) = .ok q ↔
    q = place ∧ (tree.found? place).isSome := by
  induction place using List.reverseRecOn generalizing q with
  | nil =>
    simp only [List.map_nil, found?_nil, Option.isSome_some, and_true]
    exact ⟨fun h => (Except.ok.inj h).symm, fun h => h ▸ rfl⟩
  | append_singleton place name ih =>
    rw [List.map_append, List.map_singleton, resolve_append, bind_eq_ok]
    constructor
    · rintro ⟨directory, hdirectory, hstep⟩
      obtain ⟨rfl, -⟩ := ih.mp hdirectory
      obtain ⟨-, ⟨hup, -⟩ | ⟨n, hn, rfl, hsome⟩⟩ := enter_eq_ok.mp hstep
      · cases hup
      · cases hn
        exact ⟨rfl, hsome⟩
    · rintro ⟨rfl, hsome⟩
      obtain ⟨e, he⟩ := Option.isSome_iff_exists.mp hsome
      have hdirectory := directory_of_found? (List.cons_ne_nil name []) he
      have hplace : (tree.found? place).isSome := by rw [hdirectory]; rfl
      exact ⟨place, ih.mpr ⟨rfl, hplace⟩,
        enter_eq_ok.mpr ⟨hdirectory, .inr ⟨name, rfl, rfl, hsome⟩⟩⟩

/-! ## Targets -/

/-- A path that ends in a name in a directory that is there. -/
theorem target_eq_some : tree.target path = .ok (some (place, name)) ↔
    path = path.parent ++ [.down name] ∧ tree.resolve path.parent = .ok place ∧
      tree.found? place = some .directory := by
  rcases Path.eq_nil_or_append path with rfl | ⟨directory, step, rfl⟩
  · exact ⟨nofun, fun ⟨h, _⟩ => by simp at h⟩
  · simp only [target, List.getLast?_append, List.getLast?_singleton, Option.some_or,
      Path.parent_append, List.append_cancel_left_eq, List.cons.injEq, and_true]
    rw [bind_eq_ok]
    constructor
    · rintro ⟨p, hp, hcase⟩
      split at hcase
      · next n hdirectory =>
        cases hcase
        exact ⟨rfl, hp, hdirectory⟩
      · cases hcase
      · cases hcase
      · cases hcase
    · rintro ⟨rfl, hp, hdirectory⟩
      exact ⟨place, hp, by simp only [hdirectory]⟩

/-- A path that ends in a name leads to the entry of this name, if there is one. -/
theorem resolve_of_target (h : tree.target path = .ok (some (place, name)))
    (hentry : tree.found? (place ++ [name]) = some e) :
    tree.resolve path = .ok (place ++ [name]) := by
  obtain ⟨hpath, hplace, hdirectory⟩ := target_eq_some.mp h
  rw [hpath, resolve_append, hplace]
  exact enter_eq_ok.mpr ⟨hdirectory, .inr ⟨name, rfl, rfl, by rw [hentry]; rfl⟩⟩

/-- A path still ends in a name of the same directory when something was assigned to it. -/
theorem Covers.target (h : before.Covers after)
    (htarget : before.target path = .ok (some (place, name))) :
    after.target path = .ok (some (place, name)) := by
  obtain ⟨hpath, hplace, hdirectory⟩ := target_eq_some.mp htarget
  exact target_eq_some.mpr ⟨hpath, h.resolve hplace, h.directory place hdirectory⟩

/-- A path whose directory is there, but which leads nowhere, ends in a name without an entry. -/
theorem exists_target (hpath : tree.stands? path = none) (hnull : path.hasNull = false)
    (hparent : tree.stands? path.parent = some .directory) :
    ∃ place name, tree.target path = .ok (some (place, name)) ∧
      tree.found? (place ++ [name]) = none := by
  obtain ⟨-, place, hplace, hdirectory⟩ := stands?_eq_some.mp hparent
  rcases Path.eq_nil_or_append path with rfl | ⟨directory, step, rfl⟩
  · rw [stands?_nil] at hpath
    cases hpath
  · rw [Path.parent_append] at hplace
    -- Whatever the last step leads to would stand at the end of the path.
    have hleads {q e} (hstep : tree.enter place step = .ok q)
        (he : tree.found? q = some e) : False := by
      have hresolve : tree.resolve (directory ++ [step]) = .ok q := by
        rw [resolve_append, hplace]
        exact hstep
      cases hpath.symm.trans (stands?_eq_some.mpr ⟨hnull, q, hresolve, he⟩)
    cases step with
    | up =>
      -- The directory of a directory that is there is one too.
      have hup : tree.found? place.dropLast = some .directory := by
        rcases List.eq_nil_or_concat place with rfl | ⟨above, last, rfl⟩
        · exact hdirectory
        · rw [List.concat_eq_append] at hdirectory ⊢
          rw [List.dropLast_concat]
          exact directory_of_found? (List.cons_ne_nil last []) hdirectory
      exact (hleads (enter_eq_ok.mpr ⟨hdirectory, .inl ⟨rfl, rfl⟩⟩) hup).elim
    | down name =>
      refine ⟨place, name, target_eq_some.mpr ⟨by simp, by simpa using hplace, hdirectory⟩,
        Option.eq_none_iff_forall_ne_some.mpr fun e he => ?_⟩
      have hstep : tree.enter place (.down name) = .ok (place ++ [name]) :=
        enter_eq_ok.mpr ⟨hdirectory, .inr ⟨name, rfl, rfl, by rw [he]; rfl⟩⟩
      exact hleads hstep he

/-- An entry assigned where a path ends in its name is what the path leads to from then on. -/
theorem stands?_putAt {t : Tree} (hnull : path.hasNull = false)
    (htarget : tree.target path = .ok (some (place, name)))
    (hold : tree.found? (place ++ [name]) ≠ some .directory)
    (hfound : ∀ q, (tree.putAt place name t).found? q =
      if q = place ++ [name] then some t.kind else tree.found? q) :
    (tree.putAt place name t).resolve path = .ok (place ++ [name]) ∧
      (tree.putAt place name t).stands? path = some t.kind := by
  have hself : (tree.putAt place name t).found? (place ++ [name]) = some t.kind := by
    rw [hfound, if_pos rfl]
  have hresolve := resolve_of_target ((covers_of_found? hold hfound).target htarget) hself
  exact ⟨hresolve, stands?_eq_some.mpr ⟨hnull, _, hresolve, hself⟩⟩

/-! ## Making directories -/

/-- The second tree has what the first one has, and beyond it only directories to which beginnings of
a path lead. -/
structure AddsDirectories (before after : Tree) (path : Path) : Prop where
  keeps : before.Keeps after
  new : ∀ q e, before.found? q = none → after.found? q = some e →
    e = .directory ∧ ∃ steps, steps <+: path ∧ after.resolve steps = .ok q

/-- Adding no directory. -/
theorem AddsDirectories.refl (tree : Tree) (path : Path) : tree.AddsDirectories tree path where
  keeps := Keeps.refl tree
  new q e hnone hsome := by cases hnone.symm.trans hsome

/-- Directories on the way of a path are added after those on the way to a beginning of it. -/
theorem AddsDirectories.trans {t u v : Tree} (h : t.AddsDirectories u steps)
    (hsteps : steps <+: path) (h' : u.AddsDirectories v path) : t.AddsDirectories v path where
  keeps := h.keeps.trans h'.keeps
  new q e hnone hsome := by
    cases hmiddle : u.found? q with
    | none => exact h'.new q e hmiddle hsome
    | some f =>
      obtain ⟨rfl, beginning, hbeginning, hresolve⟩ := h.new q f hnone hmiddle
      cases (h'.keeps q _ hmiddle).symm.trans hsome
      exact ⟨rfl, beginning, hbeginning.trans hsteps, h'.keeps.covers.resolve hresolve⟩

/-- A new directory is made where a path ends in a name without an entry. -/
theorem withNewDirectory_eq_ok {made : Tree} :
    tree.withNewDirectory path = .ok made ↔
      ∃ place name, tree.target path = .ok (some (place, name)) ∧
        tree.found? (place ++ [name]) = none ∧ made = tree.putAt place name empty := by
  unfold withNewDirectory
  rw [bind_eq_ok]
  constructor
  · rintro ⟨target, htarget, hmade⟩
    split at hmade
    · cases hmade
    · next place name =>
      split at hmade
      · cases hmade
      · next hfree => exact ⟨place, name, htarget, hfree, (Except.ok.inj hmade).symm⟩
  · rintro ⟨place, name, htarget, hfree, rfl⟩
    refine ⟨_, htarget, ?_⟩
    dsimp only
    rw [hfree]

/-- Making one directory adds it, or changes nothing where it is already there. -/
theorem withDirectory_eq_ok {made : Tree} (hnull : path.hasNull = false)
    (h : tree.withDirectory path = .ok made) :
    tree.AddsDirectories made path ∧ made.stands? path = some .directory := by
  unfold withDirectory at h
  split at h
  · next new hnew =>
    cases h
    obtain ⟨place, name, htarget, hfree, rfl⟩ := withNewDirectory_eq_ok.mp hnew
    have hold : tree.found? (place ++ [name]) ≠ some .directory := by
      rw [hfree]
      exact nofun
    have hfound := found?_putAt (t := empty) (target_eq_some.mp htarget).2.2 (fun _ _ => rfl) hold
    obtain ⟨hresolve, hstands⟩ := stands?_putAt hnull htarget hold hfound
    refine ⟨⟨keeps_of_found? hfree hfound, fun q e hnone hsome => ?_⟩, hstands⟩
    rw [hfound] at hsome
    split at hsome
    · next hq =>
      subst hq
      cases hsome
      exact ⟨rfl, path, List.prefix_rfl, hresolve⟩
    · cases hnone.symm.trans hsome
  · split at h
    · next hstands =>
      cases h
      exact ⟨AddsDirectories.refl _ _, hstands⟩
    · cases h

/-- Making a directory that is there changes nothing. -/
theorem withDirectory_of_stands? (h : tree.stands? path = some .directory) :
    tree.withDirectory path = .ok tree := by
  obtain ⟨-, q, hq, hdirectory⟩ := stands?_eq_some.mp h
  unfold withDirectory
  split
  · next made hmade =>
    -- A path that leads somewhere does not end in a name without an entry.
    obtain ⟨place, name, htarget, hfree, -⟩ := withNewDirectory_eq_ok.mp hmade
    obtain ⟨hpath, hplace, -⟩ := target_eq_some.mp htarget
    rw [hpath, resolve_append, hplace] at hq
    obtain ⟨-, ⟨hup, -⟩ | ⟨n, hn, rfl, -⟩⟩ := enter_eq_ok.mp hq
    · cases hup
    · cases hn
      cases hfree.symm.trans hdirectory
  · simp only [h]

/-- Making a directory, its own one first where that is missing, adds directories on the way of its
path; if it succeeds, the directory is there. -/
theorem makeBackwards_spec (tree : Tree) {steps : List Step}
    (hnull : Path.hasNull steps.reverse = false) :
    tree.AddsDirectories (tree.makeBackwards steps).1 steps.reverse ∧
      ((tree.makeBackwards steps).2 = .ok () →
        (tree.makeBackwards steps).1.stands? steps.reverse = some .directory) := by
  induction steps with
  | nil =>
    unfold makeBackwards
    split
    · next made hmade =>
      obtain ⟨hadds, hstands⟩ := withDirectory_eq_ok rfl hmade
      exact ⟨hadds, fun _ => hstands⟩
    · exact ⟨AddsDirectories.refl _ _, nofun⟩
  | cons step steps ih =>
    have hbeginning : steps.reverse <+: (step :: steps).reverse := by simp
    obtain ⟨hadds, -⟩ := ih (Path.hasNull_of_isPrefix hbeginning hnull)
    unfold makeBackwards
    dsimp only
    split
    · next made hmade =>
      obtain ⟨hadds, hstands⟩ := withDirectory_eq_ok hnull hmade
      exact ⟨hadds, fun _ => hstands⟩
    · split
      · next made e hmade =>
        rw [hmade] at hadds
        exact ⟨hadds.trans hbeginning (AddsDirectories.refl _ _), nofun⟩
      · next made hmade =>
        rw [hmade] at hadds
        split
        · next again hagain =>
          obtain ⟨hlast, hstands⟩ := withDirectory_eq_ok hnull hagain
          exact ⟨hadds.trans hbeginning hlast, fun _ => hstands⟩
        · exact ⟨hadds.trans hbeginning (AddsDirectories.refl _ _), nofun⟩
    · exact ⟨AddsDirectories.refl _ _, nofun⟩

/-- Making a directory adds directories on the way of its path and nothing else, whether it succeeds
or not. -/
theorem addsDirectories_makeDirectory (tree : Tree) (path : Path) :
    tree.AddsDirectories (tree.makeDirectory path).1 path := by
  unfold makeDirectory
  split
  · exact AddsDirectories.refl tree path
  · next hnull =>
    have hnull : Path.hasNull path.reverse.reverse = false := by simpa using hnull
    simpa using (makeBackwards_spec tree hnull).1

/-- After it was made, a directory is there. -/
theorem stands?_of_makeDirectory {made : Tree} (h : tree.makeDirectory path = (made, .ok ())) :
    made.stands? path = some .directory := by
  unfold makeDirectory at h
  split at h
  · cases h
  · next hnull =>
    have hnull : Path.hasNull path.reverse.reverse = false := by simpa using hnull
    have hmade := (makeBackwards_spec tree hnull).2
    rw [h] at hmade
    simpa using hmade rfl

/-- Making a directory that is there changes nothing. -/
theorem makeDirectory_of_stands? (h : tree.stands? path = some .directory) :
    tree.makeDirectory path = (tree, .ok ()) := by
  obtain ⟨hnull, -⟩ := stands?_eq_some.mp h
  have hmade := withDirectory_of_stands? h
  rw [makeDirectory, if_neg (by simp [hnull])]
  rcases Path.eq_nil_or_append path with rfl | ⟨directory, step, rfl⟩
  · simp only [List.reverse_nil, makeBackwards, hmade]
  · rw [List.reverse_append, List.reverse_singleton, List.singleton_append, makeBackwards]
    simp only [List.reverse_cons, List.reverse_reverse, hmade]

/-- The directories that are made for a path without steps up do not put anything at the path. -/
theorem stands?_of_makeDirectory_parent (hup : Step.up ∉ path) (h : tree.stands? path = none) :
    (tree.makeDirectory path.parent).1.stands? path = none := by
  refine Option.eq_none_iff_forall_ne_some.mpr fun e he => ?_
  obtain ⟨hnull, q, hq, hfound⟩ := stands?_eq_some.mp he
  obtain ⟨place, rfl⟩ := Path.exists_names hup
  obtain ⟨rfl, -⟩ := resolve_names.mp hq
  have hfree : tree.found? q = none := by
    refine Option.eq_none_iff_forall_ne_some.mpr fun f hf => ?_
    have hresolve : tree.resolve (q.map .down) = .ok q := resolve_names.mpr ⟨rfl, by rw [hf]; rfl⟩
    cases h.symm.trans (stands?_eq_some.mpr ⟨hnull, q, hresolve, hf⟩)
  obtain ⟨-, steps, hsteps, hresolve⟩ := (addsDirectories_makeDirectory _ _).new q e hfree hfound
  -- A beginning of the parent has fewer names than the path, and leads to a place with as many.
  obtain ⟨place, rfl⟩ : ∃ place : Place, steps = place.map .down :=
    Path.exists_names fun hmem => hup ((hsteps.trans (Path.parent_isPrefix _)).subset hmem)
  obtain ⟨rfl, -⟩ := resolve_names.mp hresolve
  rcases List.eq_nil_or_concat q with rfl | ⟨above, last, rfl⟩
  · rw [found?_nil] at hfree
    cases hfree
  · have hlength := hsteps.length_le
    simp only [Path.parent, List.length_map, List.length_dropLast, List.length_concat] at hlength
    omega

/-! ## Reading and writing -/

/-- An operation at a path that succeeds, on a path that can be one. -/
theorem located_eq_ok {α : Type} {r : Except Obstacle α} {a : α} :
    located path r = .ok a ↔ path.hasNull = false ∧ r = .ok a := by
  unfold located
  cases path.hasNull with
  | true => simp
  | false => simp [mapError_eq_ok]

/-- The content of a file is what is read. -/
theorem read_eq_ok {bytes : ByteArray} :
    tree.read path = .ok bytes ↔ tree.stands? path = some (.file bytes) := by
  rw [read, located_eq_ok, stands?_eq_some, content, bind_eq_ok]
  refine and_congr_right fun _ => exists_congr fun q => and_congr_right fun _ => ?_
  cases tree.found? q with
  | none => simp
  | some e => cases e <;> simp

/-- A file is written where a path ends in a name that no directory has. -/
theorem withFile_eq_ok {written : Tree} {content : ByteArray} :
    tree.withFile path content = .ok written ↔
      ∃ place name, tree.target path = .ok (some (place, name)) ∧
        tree.found? (place ++ [name]) ≠ some .directory ∧
        written = tree.putAt place name (file content) := by
  unfold withFile
  rw [bind_eq_ok]
  constructor
  · rintro ⟨target, htarget, hwritten⟩
    split at hwritten
    · cases hwritten
    · next place name =>
      split at hwritten
      · cases hwritten
      · next hold => exact ⟨place, name, htarget, hold, (Except.ok.inj hwritten).symm⟩
  · rintro ⟨place, name, htarget, hold, rfl⟩
    refine ⟨_, htarget, ?_⟩
    dsimp only
    split
    · next hdirectory => exact absurd hdirectory hold
    · rfl

/-- Writing a file changes what stands where its path leads, and nothing else. Nothing stood there
if the path led nowhere. -/
theorem write_eq_ok {written : Tree} {content : ByteArray}
    (h : tree.write path content = .ok written) :
    ∃ place, written.stands? path = some (.file content) ∧ written.resolve path = .ok place ∧
      (tree.stands? path = none → tree.found? place = none) ∧
      ∀ q, written.found? q = if q = place then some (.file content) else tree.found? q := by
  obtain ⟨hnull, hwritten⟩ := located_eq_ok.mp h
  obtain ⟨place, name, htarget, hold, rfl⟩ := withFile_eq_ok.mp hwritten
  have hfound := found?_putAt (t := file content) (target_eq_some.mp htarget).2.2
    (fun _ _ => rfl) hold
  obtain ⟨hresolve, hstands⟩ := stands?_putAt hnull htarget hold hfound
  refine ⟨place ++ [name], hstands, hresolve,
    fun hnone => Option.eq_none_iff_forall_ne_some.mpr fun e he => ?_, hfound⟩
  cases hnone.symm.trans (stands?_eq_some.mpr ⟨hnull, _, resolve_of_target htarget he, he⟩)

/-- A file can be written where a path leads nowhere, but its directory is there. -/
theorem exists_write (hpath : tree.stands? path = none) (hnull : path.hasNull = false)
    (hparent : tree.stands? path.parent = some .directory) (content : ByteArray) :
    ∃ written, tree.write path content = .ok written := by
  obtain ⟨place, name, htarget, hfree⟩ := exists_target hpath hnull hparent
  have hold : tree.found? (place ++ [name]) ≠ some .directory := by
    rw [hfree]
    exact nofun
  exact ⟨_, located_eq_ok.mpr ⟨hnull, withFile_eq_ok.mpr ⟨place, name, htarget, hold, rfl⟩⟩⟩

end Tree
end SqlPrep.Files
