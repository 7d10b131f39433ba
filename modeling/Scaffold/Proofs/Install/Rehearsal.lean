import Mathlib
import Scaffold.Proofs.Install.Preparation

/-!
# What a rehearsal foretells

A rehearsal asks for each file whether its place is free, as the installation does, but of the tree
as it was at the beginning. The installation itself has by then written the files before it. The two
agree in all that they report, unless a file goes where nothing was at the beginning but where an
earlier file has gone or needs a directory. With overwriting nothing is left alone, and they always
agree.

What an installation has made at any time is told by what it has written: there is something at a
place if there was at the beginning, or if the place is one that has been written or is above one.
-/

namespace Scaffold

open FileTree (Stays)

namespace Progress

variable {mode : WriteMode} {p : Progress} {item : RenderedFile} {items : List RenderedFile}
  {start : FileTree}

/-- No file goes where nothing was at the beginning but where an earlier file goes, or above that
place. -/
def Apart (start : FileTree) (items : List RenderedFile) : Prop :=
  items.Pairwise fun earlier later ↦
    isFree (later, start) = true → ¬ later.target.parts <+: earlier.target.parts

theorem apart_cons : Apart start (item :: items) ↔
    (∀ later ∈ items, isFree (later, start) = true →
      ¬ later.target.parts <+: item.target.parts) ∧ Apart start items :=
  List.pairwise_cons

/-! ## Free places -/

theorem isFree_iff {turn : RenderedFile × FileTree} :
    isFree turn = true ↔ turn.2.occupied turn.1.target = .ok false :=
  decide_eq_true_iff

/-- Where it can be asked whether a place is free, it is if nothing is seen there. -/
theorem isFree_iff_look {tree : FileTree} {there : Bool}
    (h : tree.occupied item.target = .ok there) :
    isFree (item, tree) = true ↔ tree.look item.target.parts = .nothing := by
  rw [isFree_iff, ← not_iff_not, ← ne_eq (tree.look _), ← FileTree.occupied_eq_true_iff, h]
  cases there <;> simp

/-- Below a free place there is nothing. -/
theorem look_eq_nothing_of_isFree {tree : FileTree} {later : RenderedFile}
    (h : isFree (later, tree) = true) (hway : later.target.parts <+: item.target.parts) :
    tree.look item.target.parts = .nothing := by
  have hnothing := (isFree_iff_look (isFree_iff.1 h)).1 h
  by_contra hsome
  exact FileTree.look_ne_nothing_of_prefix hsome hway hnothing

/-- There is something at a place if there was at the beginning, or if the place is one that has
been written or is above one. -/
def Covers (start : FileTree) (p : Progress) : Prop :=
  ∀ names, p.tree.look names ≠ .nothing ↔
    start.look names ≠ .nothing ∨ ∃ place ∈ p.written, names <+: place.parts

theorem covers_start (start : FileTree) : Covers start (.start start) := by
  intro names
  constructor
  · exact .inl
  · rintro (h | ⟨place, hplace, -⟩)
    · exact h
    · cases hplace

/-- When a step comes to its end, it could be asked whether the place was free. -/
theorem exists_occupied_of_step (h : (p.step mode item).2 = .ok ()) :
    ∃ there, p.tree.occupied item.target = .ok there := by
  cases hthere : p.tree.occupied item.target with
  | error fault =>
    simp only [step, hthere] at h
    cases h
  | ok there => exact ⟨there, rfl⟩

/-- A step that comes to its end writes its file, if the place is free, or leaves the tree alone. -/
theorem wrote_step (hforce : mode.force = false) (hwriting : mode.rehearsal = false)
    (h : (p.step mode item).2 = .ok ()) :
    isFree (item, p.tree) = true ∧ Wrote p.tree (p.step mode item).1.tree item ∨
      isFree (item, p.tree) = false ∧ (p.step mode item).1.tree = p.tree := by
  obtain ⟨there, hthere⟩ := exists_occupied_of_step h
  cases there with
  | true => simp [step, isFree, hthere, hforce]
  | false =>
    refine .inl ⟨isFree_iff.2 hthere, ?_⟩
    simp only [step, hthere, Bool.false_and, Bool.false_eq_true, if_false, hwriting] at h ⊢
    split at h
    · next hwrite => exact wrote_of_writeItem hwrite
    · cases h

theorem covers_step (hforce : mode.force = false) (hwriting : mode.rehearsal = false)
    (hcovers : Covers start p) (h : (p.step mode item).2 = .ok ()) :
    Covers start (p.step mode item).1 := by
  obtain ⟨hwritten, -⟩ := written_step hforce h
  intro names
  rcases wrote_step hforce hwriting h with ⟨hfree, hwrote⟩ | ⟨hfree, hsame⟩
  · rw [hwrote.look_ne_nothing_iff, hcovers names, hwritten, if_pos hfree]
    simp only [List.mem_append, List.mem_singleton, or_and_right, exists_or, exists_eq_left,
      or_assoc]
  · rw [hsame, hcovers names, hwritten, hfree]
    simp

/-- A place is free in its turn if it was so at the beginning and nothing has been written there or
below it. -/
theorem isFree_iff_of_covers (hcovers : Covers start p) (hstays : Stays start p.tree) {there : Bool}
    (hthere : p.tree.occupied item.target = .ok there) :
    isFree (item, p.tree) = true ↔ isFree (item, start) = true ∧
      ∀ place ∈ p.written, ¬ item.target.parts <+: place.parts := by
  obtain ⟨before, hbefore, -⟩ := hstays.occupied hthere
  rw [isFree_iff_look hthere, isFree_iff_look hbefore, ← not_iff_not, ← ne_eq (p.tree.look _),
    hcovers item.target.parts]
  simp only [not_and_or, not_forall, not_not, exists_prop, ne_eq]

/-! ## Whole runs -/

/-- When all files have had their turn, it could be asked of each place whether it was free. -/
theorem exists_occupied_of_run (h : (p.run mode items).2 = .ok ()) :
    ∀ turn ∈ turns mode p items, ∃ there, turn.2.occupied turn.1.target = .ok there := by
  induction items generalizing p with
  | nil =>
    intro turn hturn
    cases hturn
  | cons item items ih =>
    rw [run_cons] at h
    split at h
    · next hstep =>
      exact List.forall_mem_cons.2 ⟨exists_occupied_of_step hstep, ih h⟩
    · cases h

/-- The places that were free at the beginning are so in their turn just if the files are apart from
each other and from what has been written already. -/
theorem forall_isFree_iff (hforce : mode.force = false) (hwriting : mode.rehearsal = false)
    (hcovers : Covers start p) (hstays : Stays start p.tree) (h : (p.run mode items).2 = .ok ()) :
    (∀ turn ∈ turns mode p items, isFree (turn.1, start) = true → isFree turn = true) ↔
      (∀ item ∈ items, isFree (item, start) = true →
        ∀ place ∈ p.written, ¬ item.target.parts <+: place.parts) ∧ Apart start items := by
  induction items generalizing p with
  | nil => simp [turns, Apart]
  | cons item items ih =>
    obtain ⟨there, hthere⟩ := exists_occupied_of_run h (item, p.tree) List.mem_cons_self
    have hfree := isFree_iff_of_covers hcovers hstays hthere
    rw [run_cons] at h
    split at h
    · next hstep =>
      have hrest := ih (covers_step hforce hwriting hcovers hstep)
        (hstays.trans (stays_step mode p item)) h
      obtain ⟨hwritten, -⟩ := written_step hforce hstep
      rw [turns, List.forall_mem_cons, List.forall_mem_cons, hrest, hwritten, apart_cons]
      constructor
      · rintro ⟨hfirst, hitems, hapart⟩
        refine ⟨⟨fun hstart ↦ (hfree.1 (hfirst hstart)).2, ?_⟩, ?_, hapart⟩
        · intro later hlater hstart place hplace
          exact hitems later hlater hstart place (List.mem_append_left _ hplace)
        · intro later hlater hstart hway
          -- the first file is free at the beginning like the place above it, so it has been written
          have hnothing := look_eq_nothing_of_isFree hstart hway
          obtain ⟨before, hbefore, -⟩ := hstays.occupied hthere
          have hwrote := hfirst ((isFree_iff_look hbefore).2 hnothing)
          refine hitems later hlater hstart item.target ?_ hway
          rw [if_pos hwrote]
          exact List.mem_append_right _ List.mem_cons_self
      · rintro ⟨⟨hfirst, hitems⟩, hlaters, hapart⟩
        refine ⟨fun hstart ↦ hfree.2 ⟨hstart, hfirst hstart⟩, ?_, hapart⟩
        intro later hlater hstart place hplace
        rcases List.mem_append.1 hplace with hplace | hplace
        · exact hitems later hlater hstart place hplace
        · split at hplace
          · cases List.mem_singleton.1 hplace
            exact hlaters later hlater hstart
          · cases hplace
    · cases h

/-- Of two choices from a list, one of which is part of the other, the first is all of the second if
both give the same. -/
theorem forall_of_map_filter_eq {α β : Type} {l : List α} {f g : α → Bool} {t : α → β}
    (h : ∀ x ∈ l, f x = true → g x = true) (heq : (l.filter f).map t = (l.filter g).map t) :
    ∀ x ∈ l, g x = true → f x = true := by
  intro x hx hg
  have hfilter : (l.filter g).filter f = l.filter f := by
    rw [List.filter_filter]
    refine List.filter_congr fun y hy ↦ ?_
    cases hf : f y with
    | false => rfl
    | true => rw [h y hy hf, Bool.and_self]
  have hsub : (l.filter f).Sublist (l.filter g) := hfilter ▸ List.filter_sublist
  have hlength : (l.filter f).length = (l.filter g).length := by
    rw [← List.length_map, heq, List.length_map]
  have hmem : x ∈ l.filter f := by
    rw [hsub.eq_of_length hlength]
    exact List.mem_filter.2 ⟨hx, hg⟩
  exact (List.mem_filter.1 hmem).2

/-- A rehearsal comes to its end if it can be asked of each place whether it is free. -/
theorem run_of_rehearsal (hrehearsal : mode.rehearsal = true)
    (h : ∀ item ∈ items, ∃ there, p.tree.occupied item.target = .ok there) :
    (p.run mode items).2 = .ok () := by
  induction items generalizing p with
  | nil => rfl
  | cons item items ih =>
    obtain ⟨⟨there, hthere⟩, hitems⟩ := List.forall_mem_cons.1 h
    have hstep : (p.step mode item).2 = .ok () := by
      simp only [step, hthere, hrehearsal, if_true]
      split <;> rfl
    rw [run_cons, hstep]
    refine ih ?_
    rwa [tree_step_of_rehearsal hrehearsal]

/-- With overwriting a step that comes to its end writes its file. -/
theorem written_step_of_force (hforce : mode.force = true) (h : (p.step mode item).2 = .ok ()) :
    (p.step mode item).1.written = p.written ++ [item.target] ∧
      (p.step mode item).1.skipped = p.skipped := by
  obtain ⟨there, hthere⟩ := exists_occupied_of_step h
  have hgo : ¬ (there && !mode.force) = true := by
    rw [hforce, Bool.not_true, Bool.and_false]
    exact Bool.false_ne_true
  simp only [step, hthere, if_neg hgo] at h ⊢
  by_cases hrehearsal : mode.rehearsal = true
  · rw [if_pos hrehearsal]
    exact ⟨rfl, rfl⟩
  · rw [if_neg hrehearsal] at h ⊢
    split at h
    · exact ⟨rfl, rfl⟩
    · cases h

/-- With overwriting all files are written. -/
theorem written_run_of_force (hforce : mode.force = true) (h : (p.run mode items).2 = .ok ()) :
    (p.run mode items).1.written = p.written ++ items.map (·.target) ∧
      (p.run mode items).1.skipped = p.skipped := by
  induction items generalizing p with
  | nil => simp [run]
  | cons item items ih =>
    rw [run_cons] at h ⊢
    split at h
    · next hstep =>
      obtain ⟨hwritten, hskipped⟩ := written_step_of_force hforce hstep
      obtain ⟨ihwritten, ihskipped⟩ := ih h
      rw [ihwritten, ihskipped, hwritten, hskipped, List.append_assoc, List.singleton_append,
        List.map_cons]
      exact ⟨rfl, rfl⟩
    · cases h

/-! ## The two compared -/

/-- The same in rehearsal. -/
def rehearse (mode : WriteMode) : WriteMode := { mode with rehearsal := true }

/-- Of each place it could be asked at the beginning whether it was free, if it could be asked in
its turn. -/
theorem exists_occupied_of_run_start (h : (p.run mode items).2 = .ok ()) :
    ∀ item ∈ items, ∃ there, p.tree.occupied item.target = .ok there := by
  intro item hitem
  rw [← map_fst_turns mode p items] at hitem
  obtain ⟨turn, hturn, rfl⟩ := List.mem_map.1 hitem
  obtain ⟨there, hthere⟩ := exists_occupied_of_run h turn hturn
  obtain ⟨before, hbefore, -⟩ := (stays_of_mem_turns hturn).occupied hthere
  exact ⟨before, hbefore⟩

/-- A place that is free in its turn was free at the beginning. -/
theorem isFree_start_of_isFree {turn : RenderedFile × FileTree} (hturn : turn ∈ turns mode p items)
    (h : isFree turn = true) : isFree (turn.1, p.tree) = true := by
  obtain ⟨before, hbefore, himp⟩ := (stays_of_mem_turns hturn).occupied (isFree_iff.1 h)
  cases before with
  | false => exact isFree_iff.2 hbefore
  | true => cases himp rfl

/-- A rehearsal tells whether a place is free, when its turn comes, by the tree as it was at the
beginning. -/
theorem written_rehearse (hforce : mode.force = false)
    (h : (p.run (rehearse mode) items).2 = .ok ()) :
    (p.run (rehearse mode) items).1.written = p.written ++
        ((turns mode p items).filter fun turn ↦ isFree (turn.1, p.tree)).map (·.1.target) ∧
      (p.run (rehearse mode) items).1.skipped = p.skipped ++
        ((turns mode p items).filter fun turn ↦ !isFree (turn.1, p.tree)).map (·.1.target) := by
  have hforce' : (rehearse mode).force = false := hforce
  obtain ⟨hwritten, hskipped⟩ := written_run hforce' h
  have hturns : turns (rehearse mode) p items =
      (turns mode p items).map ((·, p.tree) ∘ Prod.fst) := by
    rw [turns_of_rehearsal rfl, ← List.map_map, map_fst_turns]
  rw [hturns, List.filter_map, List.map_map] at hwritten hskipped
  exact ⟨hwritten, hskipped⟩

/-- Without overwriting the same are written and left alone in a rehearsal just if the files are
apart from each other. -/
theorem written_rehearse_eq_iff (hforce : mode.force = false) (hwriting : mode.rehearsal = false)
    {tree : FileTree} (h : ((Progress.start tree).run mode items).2 = .ok ())
    (hend : ((Progress.start tree).run (rehearse mode) items).2 = .ok ()) :
    (((Progress.start tree).run (rehearse mode) items).1.written =
          ((Progress.start tree).run mode items).1.written ∧
        ((Progress.start tree).run (rehearse mode) items).1.skipped =
          ((Progress.start tree).run mode items).1.skipped) ↔ Apart tree items := by
  obtain ⟨hwritten, hskipped⟩ := written_run hforce h
  obtain ⟨hwritten', hskipped'⟩ := written_rehearse hforce hend
  -- the places free at the beginning are free in their turn
  have hfree : (∀ turn ∈ turns mode (.start tree) items,
      isFree (turn.1, tree) = true → isFree turn = true) ↔ Apart tree items := by
    rw [forall_isFree_iff hforce hwriting (covers_start tree) (.refl tree) h]
    exact and_iff_right fun item _ _ place hplace ↦ absurd hplace List.not_mem_nil
  rw [hwritten, hskipped, hwritten', hskipped', ← hfree]
  constructor
  · rintro ⟨heq, -⟩
    exact forall_of_map_filter_eq (fun turn hturn ↦ isFree_start_of_isFree hturn)
      (List.append_cancel_left heq).symm
  · intro hall
    have hsame : ∀ turn ∈ turns mode (.start tree) items,
        isFree (turn.1, (Progress.start tree).tree) = isFree turn :=
      fun turn hturn ↦ Bool.eq_iff_iff.2 ⟨hall turn hturn, isFree_start_of_isFree hturn⟩
    constructor
    · rw [List.filter_congr hsame]
    · rw [List.filter_congr fun turn hturn ↦ congrArg (! ·) (hsame turn hturn)]

/-- When all files have had their turn, they have so in a rehearsal, and the same are written and
left alone there just if files are overwritten or are apart from each other. -/
theorem run_rehearse (hwriting : mode.rehearsal = false) {tree : FileTree}
    (h : ((Progress.start tree).run mode items).2 = .ok ()) :
    ((Progress.start tree).run (rehearse mode) items).2 = .ok () ∧
      ((((Progress.start tree).run (rehearse mode) items).1.written =
            ((Progress.start tree).run mode items).1.written ∧
          ((Progress.start tree).run (rehearse mode) items).1.skipped =
            ((Progress.start tree).run mode items).1.skipped) ↔
        (mode.force = true ∨ Apart tree items)) := by
  have hend : ((Progress.start tree).run (rehearse mode) items).2 = .ok () :=
    run_of_rehearsal rfl (exists_occupied_of_run_start h)
  refine ⟨hend, ?_⟩
  cases hforce : mode.force with
  | true =>
    have hforce' : (rehearse mode).force = true := hforce
    obtain ⟨hwritten, hskipped⟩ := written_run_of_force hforce h
    obtain ⟨hwritten', hskipped'⟩ := written_run_of_force hforce' hend
    exact iff_of_true ⟨hwritten'.trans hwritten.symm, hskipped'.trans hskipped.symm⟩ (.inl rfl)
  | false => rw [written_rehearse_eq_iff hforce hwriting h hend, or_iff_right Bool.false_ne_true]

end Progress

namespace Blueprint

open Progress (Apart rehearse)

/-! ## Whole installations -/

/-- When an installation comes to its end, so does its rehearsal, with the same values. The two
report the same just if files are overwritten or the rendered files are apart from each other. -/
theorem install_rehearse (b : Blueprint) (request : InstallRequest) (prompter : Prompter)
    (tree : FileTree) (base : Path) (c : Conversation) (result : InstallResult)
    (hwriting : request.mode.rehearsal = false)
    (h : (b.install request prompter tree base c).outcome = .ok result) :
    ∃ destination selected items rehearsed,
      destinationOf tree base request.destination = .ok destination ∧
      b.select request.pick = .ok selected ∧
      (b.render tree selected (result.values.lookup ·) destination).outcome = .ok items ∧
      (b.install { request with mode := rehearse request.mode } prompter tree base c).outcome =
        .ok rehearsed ∧
      rehearsed.values = result.values ∧
      (rehearsed = result ↔ request.mode.force = true ∨ Apart tree items) := by
  rcases install_cases b request prompter tree base c with
    ⟨c', e, hfailed⟩ | ⟨values, items, c', hprepares⟩
  · rw [hfailed] at h
    cases h
  · rw [install_of_prepares hprepares] at h
    obtain ⟨hrun, rfl⟩ := outcome_writeRendered_eq_ok_iff.1 h
    obtain ⟨hend, hsame⟩ := Progress.run_rehearse hwriting hrun
    -- all that comes before the writing is the same in a rehearsal
    have hrehearsal : b.Prepares { request with mode := rehearse request.mode } prompter tree base c
        values items c' := hprepares
    obtain ⟨destination, selected, d, hdestination, hselected, -, hrender, -⟩ := hprepares
    let rehearsed := ((Progress.start tree).run (rehearse request.mode) items).1
    have houtcome : (b.install { request with mode := rehearse request.mode } prompter tree base
        c).outcome = .ok ⟨values, rehearsed.written, rehearsed.skipped⟩ := by
      rw [install_of_prepares hrehearsal]
      exact outcome_writeRendered_eq_ok_iff.2 ⟨hend, rfl⟩
    refine ⟨destination, selected, items, _, hdestination, hselected, hrender, houtcome, rfl, ?_⟩
    rw [InstallResult.mk.injEq, eq_self, true_and]
    exact hsame

/-- The two files rendered under these names. -/
def twinsRendered (first second : String) : List RenderedFile :=
  [⟨⟨["twins", "___aa___"]⟩, ⟨["out", first]⟩, .text "one"⟩,
    ⟨⟨["twins", "___bb___"]⟩, ⟨["out", second]⟩, .text "two"⟩]

/-- The two files are rendered under any names that lead to places below the destination. -/
theorem render_twins_of_target {first second : String}
    (hfirst : target ⟨["out"]⟩ first = .ok ⟨["out", first]⟩)
    (hsecond : target ⟨["out"]⟩ second = .ok ⟨["out", second]⟩) :
    twins.render twinsTree twins.files ((twinNames first second).lookup ·) ⟨["out"]⟩ =
      .ok (twinsRendered first second) := by
  have hfiles : twins.render twinsTree twins.files ((twinNames first second).lookup ·) ⟨["out"]⟩ =
      twins.renderAll twinsTree ((twinNames first second).lookup ·) ⟨["out"]⟩ ⟨"___", "___"⟩
        [("___aa___", ["aa"]), ("___bb___", ["bb"])] := rfl
  have hvalue : ∀ value, String.ofList (value.toList ++ []) = value := by simp
  have haa : Placeholder.fill ⟨"___", "___"⟩ ((twinNames first second).lookup ·) ["aa"] "___aa___" =
      .ok first := congrArg Except.ok (hvalue first)
  have hbb : Placeholder.fill ⟨"___", "___"⟩ ((twinNames first second).lookup ·) ["bb"] "___bb___" =
      .ok second := congrArg Except.ok (hvalue second)
  simp only [hfiles, renderAll, renderFile, haa, hbb, hfirst, hsecond]
  rfl

/-- What becomes of the two files under two different names. -/
theorem outcome_install_twins :
    (twins.install (twinsRequest "one" "two" ⟨false, false⟩) .nobody twinsTree ⟨[]⟩
        (.start [])).outcome =
      .ok ⟨twinNames "one" "two", [⟨["out", "one"]⟩, ⟨["out", "two"]⟩], []⟩ := by
  rw [install_twins]
  rfl

theorem render_twins :
    (twins.render twinsTree twins.files ((twinNames "one" "two").lookup ·) ⟨["out"]⟩).outcome =
      .ok (twinsRendered "one" "two") := rfl

/-- Under two different names the files are apart, so that they are rehearsed as they are
installed. -/
theorem install_rehearse_twins :
    (twins.install (twinsRequest "one" "two" ⟨false, true⟩) .nobody twinsTree ⟨[]⟩
        (.start [])).outcome =
      .ok ⟨twinNames "one" "two", [⟨["out", "one"]⟩, ⟨["out", "two"]⟩], []⟩ := by
  obtain ⟨destination, selected, items, rehearsed, hdestination, hselected, hrender, hrehearsed, -,
    hsame⟩ := install_rehearse twins (twinsRequest "one" "two" ⟨false, false⟩) .nobody twinsTree
      ⟨[]⟩ (.start []) _ rfl outcome_install_twins
  cases hdestination
  cases hselected
  have hitems : items = twinsRendered "one" "two" :=
    (Except.ok.inj (hrender.symm.trans render_twins))
  have hapart : Apart twinsTree items := by
    rw [hitems, Apart]
    decide
  rw [hsame.2 (.inr hapart)] at hrehearsed
  exact hrehearsed

/-- Under one name the second file is left alone, since the first is there already, but in a
rehearsal both would be written. -/
theorem install_rehearse_twins_same :
    (twins.install (twinsRequest "same" "same" ⟨false, false⟩) .nobody twinsTree ⟨[]⟩
        (.start [])).outcome =
      .ok ⟨twinNames "same" "same", [⟨["out", "same"]⟩], [⟨["out", "same"]⟩]⟩ ∧
    (twins.install (twinsRequest "same" "same" ⟨false, true⟩) .nobody twinsTree ⟨[]⟩
        (.start [])).outcome =
      .ok ⟨twinNames "same" "same", [⟨["out", "same"]⟩, ⟨["out", "same"]⟩], []⟩ := by
  constructor
  · rw [install_twins]
    decide +kernel
  · rw [install_twins]
    decide +kernel

end Blueprint

end Scaffold
