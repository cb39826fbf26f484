import ExhaustionGuard.Directory
import Mathlib.Data.List.Basic

/-! # Trees that grow

To make a directory is to add places to a tree, one after another. Each of them
is free when it is added, and what is above it is a directory by then. All else
stays as it was, so whatever led somewhere before still leads there. The places
that are added lie on the way to the directory that is made, which is there in
the end if nothing failed.
-/

namespace ExhaustionGuard.Directory

variable {tree before between after : Directory} {place other : List String}
  {kind : EntryKind} {steps : List Path.Step}

theorem kind?_of_ne_nil (hplace : place ≠ []) : tree.kind? place = tree.entries.lookup place := by
  have hsome : place.isEmpty = false := List.isEmpty_eq_false_iff.mpr hplace
  rw [kind?, if_neg (by rw [hsome]; exact Bool.false_ne_true)]

theorem kind?_insert (hfree : tree.kind? place = none) (kind : EntryKind) (other : List String) :
    (tree.insert place kind).kind? other = if other = place then some kind else tree.kind? other := by
  have hplace : place ≠ [] := by
    rintro rfl
    cases hfree
  rw [kind?_of_ne_nil hplace] at hfree
  by_cases hother : other = []
  · simp [hother, kind?, hplace.symm]
  · rw [kind?_of_ne_nil hother, kind?_of_ne_nil hother, insert, List.lookup_append]
    by_cases heq : other = place
    · simp [heq, hfree]
    · have hne : (other == place) = false := beq_eq_false_iff_ne.mpr heq
      simp [heq, hne, List.lookup_cons]

/-! ## Adding places -/

/-- All that is in a tree is in this one too, and is the same there. -/
def Extends (after before : Directory) : Prop :=
  ∀ place kind, before.kind? place = some kind → after.kind? place = some kind

theorem extends_insert (hfree : tree.kind? place = none) (kind : EntryKind) :
    (tree.insert place kind).Extends tree := by
  intro other found hfound
  rw [kind?_insert hfree]
  split
  next heq =>
    rw [heq, hfree] at hfound
    cases hfound
  next => exact hfound

/-- A tree with directories added at places, one after another. -/
def withDirectories (tree : Directory) (places : List (List String)) : Directory :=
  places.foldl (fun tree place => tree.insert place .directory) tree

/-- Directories can be added at these places in this order: each place is free when its turn comes,
and what is above it is a directory. -/
def BuildOrder : Directory → List (List String) → Prop
  | _, [] => True
  | tree, place :: rest =>
      tree.kind? place = none ∧ tree.kind? place.dropLast = some .directory ∧
        BuildOrder (tree.insert place .directory) rest

theorem withDirectories_append (tree : Directory) (first second : List (List String)) :
    tree.withDirectories (first ++ second) =
      (tree.withDirectories first).withDirectories second :=
  List.foldl_append

namespace BuildOrder

variable {places first second : List (List String)}

theorem append (hfirst : tree.BuildOrder first)
    (hsecond : (tree.withDirectories first).BuildOrder second) :
    tree.BuildOrder (first ++ second) := by
  induction first generalizing tree with
  | nil => exact hsecond
  | cons place rest ih => exact ⟨hfirst.1, hfirst.2.1, ih hfirst.2.2 hsecond⟩

/-- There is a directory at each place that was added, and all else is as it was. -/
theorem kind?_withDirectories (horder : tree.BuildOrder places) (other : List String) :
    (tree.withDirectories places).kind? other =
      if other ∈ places then some .directory else tree.kind? other := by
  induction places generalizing tree with
  | nil => simp [withDirectories]
  | cons place rest ih =>
      have hrest : (tree.withDirectories (place :: rest)).kind? other = _ := ih horder.2.2
      rw [hrest, kind?_insert horder.1]
      by_cases hlater : other ∈ rest
      · simp [hlater]
      · by_cases heq : other = place
        · simp [heq]
        · simp [hlater, heq]

theorem not_mem_of_kind? (horder : tree.BuildOrder places) (hkind : tree.kind? other = some kind) :
    other ∉ places := by
  induction places generalizing tree with
  | nil => exact List.not_mem_nil
  | cons place rest ih =>
      have hne : other ≠ place := by
        rintro rfl
        rw [horder.1] at hkind
        cases hkind
      have hlater := ih horder.2.2 (extends_insert horder.1 _ _ _ hkind)
      simp [hne, hlater]

theorem kind?_eq_none (horder : tree.BuildOrder places) (hplace : other ∈ places) :
    tree.kind? other = none :=
  Option.eq_none_iff_forall_ne_some.mpr fun _ hkind => horder.not_mem_of_kind? hkind hplace

theorem extends_withDirectories (horder : tree.BuildOrder places) :
    (tree.withDirectories places).Extends tree := by
  intro other kind hkind
  rw [horder.kind?_withDirectories, if_neg (horder.not_mem_of_kind? hkind)]
  exact hkind

end BuildOrder

/-! ## Following names -/

/-- One name leads from a directory to a place. -/
def LeadsTo (tree : Directory) (start : List String) (name : String) (place : List String) :
    Prop :=
  tree.kind? start = some .directory ∧
    (name = ".." ∧ place = start.dropLast ∨
      name ≠ ".." ∧ name.utf8ByteSize ≤ Path.longestName ∧
        (tree.kind? (start ++ [name])).isSome = true ∧ place = start ++ [name])

theorem follow_cons_eq_ok_iff {start : List String} {name : String} {rest : List String} :
    tree.follow start (name :: rest) = .ok place ↔
      ∃ next, tree.LeadsTo start name next ∧ tree.follow next rest = .ok place := by
  rw [follow]
  unfold LeadsTo
  cases hstart : tree.kind? start with
  | none => simp
  | some kind =>
      cases kind with
      | file => simp
      | directory =>
          by_cases hup : name = ".."
          · simp [hup]
          · by_cases hlong : Path.longestName < name.utf8ByteSize
            · simp [hup, hlong, Nat.not_le.mpr hlong]
            · cases hthere : tree.kind? (start ++ [name]) <;>
                simp [hup, hlong, Nat.not_lt.mp hlong]

theorem follow_append_eq_ok_iff {start names rest : List String} :
    tree.follow start (names ++ rest) = .ok place ↔
      ∃ middle, tree.follow start names = .ok middle ∧ tree.follow middle rest = .ok place := by
  induction names generalizing start with
  | nil => simp [follow]
  | cons name names ih =>
      simp only [List.cons_append, follow_cons_eq_ok_iff, ih]
      constructor
      · rintro ⟨next, hnext, middle, hmiddle, hrest⟩
        exact ⟨middle, ⟨next, hnext, hmiddle⟩, hrest⟩
      · rintro ⟨middle, ⟨next, hnext, hmiddle⟩, hrest⟩
        exact ⟨next, hnext, middle, hmiddle, hrest⟩

theorem LeadsTo.of_extends {start : List String} {name : String}
    (hleads : before.LeadsTo start name place) (hextends : after.Extends before) :
    after.LeadsTo start name place := by
  obtain ⟨hstart, hup | ⟨hname, hshort, hthere, hplace⟩⟩ := hleads
  · exact ⟨hextends _ _ hstart, .inl hup⟩
  · obtain ⟨kind, hkind⟩ := Option.isSome_iff_exists.mp hthere
    have hthere' := Option.isSome_of_eq_some (hextends _ _ hkind)
    exact ⟨hextends _ _ hstart, .inr ⟨hname, hshort, hthere', hplace⟩⟩

/-- What led somewhere leads there in every larger tree. -/
theorem follow_of_extends (hextends : after.Extends before) {start names : List String}
    (hfollow : before.follow start names = .ok place) : after.follow start names = .ok place := by
  induction names generalizing start with
  | nil => exact hfollow
  | cons name rest ih =>
      obtain ⟨next, hnext, hrest⟩ := follow_cons_eq_ok_iff.mp hfollow
      exact follow_cons_eq_ok_iff.mpr ⟨next, hnext.of_extends hextends, ih hrest⟩

/-- A place that some of the steps of a path lead to, from the root on. -/
def IsOnWay (tree : Directory) (steps : List Path.Step) (place : List String) : Prop :=
  ∃ first, first <+: steps ∧ tree.follow [] (first.map Path.Step.name) = .ok place

theorem IsOnWay.of_extends (honWay : before.IsOnWay steps place)
    (hextends : after.Extends before) : after.IsOnWay steps place := by
  obtain ⟨first, hfirst, hfollow⟩ := honWay
  exact ⟨first, hfirst, follow_of_extends hextends hfollow⟩

theorem IsOnWay.mono {further : List Path.Step} (honWay : tree.IsOnWay steps place)
    (hbegins : steps <+: further) : tree.IsOnWay further place := by
  obtain ⟨first, hfirst, hfollow⟩ := honWay
  exact ⟨first, hfirst.trans hbegins, hfollow⟩

/-! ## Making directories -/

/-- A place is free for a directory that steps lead to: all but the last of them lead to the directory
above it. -/
structure IsVacant (tree : Directory) (steps : List Path.Step) (first : List String)
    (last : String) (above : List String) : Prop where
  check : checkSteps steps = .ok ()
  names : steps.map Path.Step.name = first ++ [last]
  follow : tree.follow [] first = .ok above
  directory : tree.kind? above = some .directory
  not_up : last ≠ ".."
  short : last.utf8ByteSize ≤ Path.longestName
  free : tree.kind? (above ++ [last]) = none

theorem of_freePlace_eq_ok (hplace : tree.freePlace steps = .ok place) :
    ∃ first last above, tree.IsVacant steps first last above ∧ place = above ++ [last] := by
  unfold freePlace at hplace
  cases hcheck : checkSteps steps with
  | error error => rw [hcheck] at hplace; cases hplace
  | ok checked =>
      rw [hcheck] at hplace
      dsimp only [bind, Except.bind] at hplace
      cases hlast : (steps.map Path.Step.name).getLast? with
      | none => rw [hlast] at hplace; cases hplace
      | some last =>
          have hnames := List.dropLast_append_getLast? last hlast
          rw [hlast] at hplace
          cases hfollow : tree.follow [] (steps.map Path.Step.name).dropLast with
          | error error => rw [hfollow] at hplace; cases hplace
          | ok above =>
              rw [hfollow] at hplace
              dsimp only at hplace
              cases hkind : tree.kind? above with
              | none => rw [hkind] at hplace; cases hplace
              | some kind =>
                  rw [hkind] at hplace
                  cases kind with
                  | file => cases hplace
                  | directory =>
                      simp only [ite_eq_iff, reduceCtorEq, and_false, false_or] at hplace
                      obtain ⟨hup, hshort, hfree, hplace⟩ := hplace
                      exact ⟨_, last, above, ⟨hcheck, hnames.symm, hfollow, hkind, hup,
                        Nat.not_lt.mp hshort, by simpa using hfree⟩, (Except.ok.inj hplace).symm⟩

namespace IsVacant

variable {first : List String} {last : String} {above : List String}

/-- A directory that is added at a vacant place is where the steps lead. -/
theorem follow_insert (vacant : tree.IsVacant steps first last above) :
    (tree.insert (above ++ [last]) .directory).follow [] (steps.map Path.Step.name) =
      .ok (above ++ [last]) := by
  have hextends := extends_insert vacant.free .directory
  have hthere : (tree.insert (above ++ [last]) .directory).kind? (above ++ [last]) =
      some .directory := by rw [kind?_insert vacant.free, if_pos rfl]
  have hleads : (tree.insert (above ++ [last]) .directory).LeadsTo above last (above ++ [last]) :=
    ⟨hextends _ _ vacant.directory, .inr ⟨vacant.not_up, vacant.short, by rw [hthere]; rfl, rfl⟩⟩
  rw [vacant.names]
  exact follow_append_eq_ok_iff.mpr ⟨above, follow_of_extends hextends vacant.follow,
    follow_cons_eq_ok_iff.mpr ⟨_, hleads, rfl⟩⟩

theorem isDirectory_insert (vacant : tree.IsVacant steps first last above) :
    (tree.insert (above ++ [last]) .directory).isDirectory steps = true := by
  have hthere : (tree.insert (above ++ [last]) .directory).kind? (above ++ [last]) =
      some .directory := by rw [kind?_insert vacant.free, if_pos rfl]
  simp [isDirectory, vacant.check, vacant.follow_insert, hthere]

end IsVacant

/-- A tree came out of another one by adding directories at places, one after another. All of them lie
on the way through some steps. -/
structure GrowsAlong (after before : Directory) (steps : List Path.Step)
    (places : List (List String)) : Prop where
  tree_eq : after = before.withDirectories places
  order : before.BuildOrder places
  onWay : ∀ place ∈ places, after.IsOnWay steps place

namespace GrowsAlong

variable {further : List Path.Step} {places first second : List (List String)}

theorem refl (tree : Directory) (steps : List Path.Step) : tree.GrowsAlong tree steps [] :=
  ⟨rfl, trivial, fun _ hplace => absurd hplace List.not_mem_nil⟩

theorem tree_extends (grows : after.GrowsAlong before steps places) : after.Extends before := by
  rw [grows.tree_eq]
  exact grows.order.extends_withDirectories

theorem mono (grows : after.GrowsAlong before steps places) (hbegins : steps <+: further) :
    after.GrowsAlong before further places :=
  ⟨grows.tree_eq, grows.order, fun place hplace => (grows.onWay place hplace).mono hbegins⟩

theorem trans (hfirst : between.GrowsAlong before steps first)
    (hsecond : after.GrowsAlong between steps second) :
    after.GrowsAlong before steps (first ++ second) where
  tree_eq := by rw [withDirectories_append, ← hfirst.tree_eq, hsecond.tree_eq]
  order := hfirst.order.append (by rw [← hfirst.tree_eq]; exact hsecond.order)
  onWay place hplace := by
    rcases List.mem_append.mp hplace with hplace | hplace
    · exact (hfirst.onWay place hplace).of_extends hsecond.tree_extends
    · exact hsecond.onWay place hplace

end GrowsAlong

/-- Making a directory did nothing but to add directories on the way to it, and it is there unless
something failed. -/
structure Made.Grows (made : Made) (tree : Directory) (steps : List Path.Step) : Prop
    extends made.tree.GrowsAlong tree steps made.added where
  done : made.result = .ok () → made.tree.isDirectory steps = true

theorem Made.Grows.unchanged {result : Except PathError Unit}
    (hdone : result = .ok () → tree.isDirectory steps = true) :
    Made.Grows ⟨result, tree, []⟩ tree steps :=
  ⟨.refl tree steps, hdone⟩

theorem makeOne_grows (tree : Directory) (steps : List Path.Step) :
    (tree.makeOne steps).Grows tree steps := by
  unfold makeOne
  split
  next place hplace =>
    obtain ⟨first, last, above, vacant, rfl⟩ := of_freePlace_eq_ok hplace
    refine ⟨⟨rfl, ⟨vacant.free, ?_, trivial⟩, fun place hplace => ?_⟩, fun _ => ?_⟩
    · rw [List.dropLast_concat]
      exact vacant.directory
    · rw [List.mem_singleton.mp hplace]
      exact ⟨steps, List.prefix_rfl, vacant.follow_insert⟩
    · exact vacant.isDirectory_insert
  next error _ =>
    split
    next hthere => exact .unchanged fun _ => hthere
    next => exact .unchanged nofun

theorem makeReversed_grows (tree : Directory) (reversed : List Path.Step) :
    (tree.makeReversed reversed).Grows tree reversed.reverse := by
  induction reversed with
  | nil => exact .unchanged fun _ => rfl
  | cons step above ih =>
      have hbegins : above.reverse <+: (step :: above).reverse :=
        ⟨[step], List.reverse_cons.symm⟩
      unfold makeReversed
      dsimp only
      split
      next =>
        split
        next => exact ⟨ih.mono hbegins, nofun⟩
        next =>
          have hlater := makeOne_grows (tree.makeReversed above).tree (step :: above).reverse
          exact ⟨(ih.mono hbegins).trans hlater.toGrowsAlong, hlater.done⟩
      next => exact makeOne_grows tree _

/-- All that is relied on when directories are made: the directory is there if nothing failed, and
directories on the way to it are all that is ever added. Anything else may make it fail. -/
def Maker.OnlyAdds (maker : Maker) : Prop :=
  ∀ tree steps, (maker tree steps).Grows tree steps

theorem make_onlyAdds : make.OnlyAdds := by
  intro tree steps
  have hgrows := makeReversed_grows tree steps.reverse
  rwa [List.reverse_reverse] at hgrows

end ExhaustionGuard.Directory
