import Mathlib.Data.List.Perm.Basic
import MarkupLint.Proofs.WorkStack
import MarkupLint.Source.Parse

/-!
A document built with a stack of work is the document by recursion. Working off a frame
changes no tree that a number stands for, whichever frame is taken, and leaves less work
(`Builder.Plans.step`); so when the frames are used up (`Builder.Plans.run`) the forest
holds the recursive document.
-/
namespace MarkupLint.Builder

theorem load_perm {frames others : List (Nat × SourceNode)} (perm : frames.Perm others) :
    load frames = load others := by
  induction perm with
  | nil => rfl
  | cons frame _ ih => rw [load, load, ih]
  | swap frame other rest =>
    simp only [load]
    omega
  | trans _ _ first second => rw [first, second]

section Step

variable {source : Source} {b grown : Builder} {id budget : Nat} {work : SourceNode}
  {rest : List (Nat × SourceNode)}

theorem sound_of_perm (perm : b.frames.Perm ((id, work) :: rest)) (sound : Sound source b) :
    Sound source { b with frames := rest } ∧ Ready source b id ∧
      ∀ frame ∈ rest, frame.1 ≠ id := by
  have unique : ((id, work) :: rest).map Prod.fst |>.Nodup :=
    (perm.map Prod.fst).nodup_iff.mp sound.unique
  rw [List.map_cons, List.nodup_cons] at unique
  refine ⟨⟨unique.2, ?_⟩, ?_, ?_⟩
  · intro frame member
    exact sound.known frame (perm.mem_iff.mpr (List.mem_cons_of_mem _ member))
  · exact sound.known (id, work) (perm.mem_iff.mpr List.mem_cons_self)
  · intro frame member same
    exact unique.1 (List.mem_map.mpr ⟨frame, member, same⟩)

mutual

/-- Working off a frame changes no tree that a number stands for: the node of the frame gets
the children that were planned for it, and all other nodes stay as they were. -/
theorem Stands.work_off (perm : b.frames.Perm ((id, work) :: rest)) (sound : Sound source b)
    (adds : Adds source id budget { b with frames := rest } grown
      (source.convertAll none [] work.children)) :
    (node : Node) → (above : Option Nat) → (place : Nat) →
      Stands source b above place node → Stands source grown above place node
  | .mk info kids, above, place, stands => by
    obtain ⟨-, -, others⟩ := sound_of_perm perm sound
    simp only [Stands] at stands ⊢
    obtain ⟨slot, there, isInfo, inFile, linked, rising, state⟩ := stands
    have old := lt_size_of_slot there
    have oldFrames (frame : Nat × SourceNode) (same : frame.1 = place) :
        frame ∈ grown.frames ↔ frame ∈ rest :=
      adds.grows.mem_frames frame (same.symm ▸ old)
    by_cases here : place = id
    · subst here
      rcases state with ⟨closed, -⟩ | ⟨node, frame, empty, planned⟩
      · exact absurd rfl (closed (place, work) (perm.mem_iff.mpr List.mem_cons_self))
      · have same : node = work := by
          rcases List.mem_cons.mp (perm.mem_iff.mp frame) with first | later
          · exact (Prod.mk.inj first).2
          · exact absurd rfl (others _ later)
        obtain ⟨ids, stand, risingIds, between, appended⟩ := adds.children
        refine ⟨_, appended slot there, isInfo, inFile, linked, ?_, Or.inl ⟨?_, ?_⟩⟩
        · rw [empty, List.nil_append, List.pairwise_cons]
          refine ⟨?_, risingIds⟩
          intro child member
          exact Nat.lt_of_lt_of_le old (between child member).1
        · intro frame member isPlace
          exact others frame ((oldFrames frame isPlace).mp member) isPlace
        · rw [empty, List.nil_append, planned, same]
          exact stand
    · refine ⟨slot, (adds.grows.kept place old here).trans there, isInfo, inFile, linked, rising, ?_⟩
      rcases state with ⟨closed, all⟩ | ⟨node, frame, empty, planned⟩
      · refine Or.inl ⟨?_, StandAll.work_off perm sound adds kids place slot.children all⟩
        intro frame member isPlace
        have inRest := (oldFrames frame isPlace).mp member
        exact closed frame (perm.mem_iff.mpr (List.mem_cons_of_mem _ inRest)) isPlace
      · refine Or.inr ⟨node, (oldFrames (place, node) rfl).mpr ?_, empty, planned⟩
        rcases List.mem_cons.mp (perm.mem_iff.mp frame) with first | later
        · exact absurd (Prod.mk.inj first).1 here
        · exact later

theorem StandAll.work_off (perm : b.frames.Perm ((id, work) :: rest)) (sound : Sound source b)
    (adds : Adds source id budget { b with frames := rest } grown
      (source.convertAll none [] work.children)) :
    (nodes : List Node) → (above : Nat) → (ids : List Nat) →
      StandAll source b above ids nodes → StandAll source grown above ids nodes
  | [], above, ids, all => by
    simpa only [StandAll] using all
  | node :: later, above, ids, all => by
    simp only [StandAll] at all ⊢
    obtain ⟨first, others, rfl, stands, more⟩ := all
    exact ⟨first, others, rfl, Stands.work_off perm sound adds node _ first stands,
      StandAll.work_off perm sound adds later _ others more⟩

end

end Step

/-- What every step of the work keeps, and how much work is left after it. -/
structure Plans (source : Source) (root : Node) (b : Builder) : Prop where
  sound : Sound source b
  stands : Stands source b none 0 root

theorem size_eq_sizeAll_children (node : SourceNode) :
    node.size = SourceNode.sizeAll node.children + 1 := by
  cases node
  simp only [SourceNode.size, SourceNode.children]

/-- A step at any frame keeps the document that is being built, and there is less to do. -/
theorem Plans.step {source : Source} {root : Node} {b : Builder} (plans : Plans source root b)
    (pick : Nat) (inside : pick < b.frames.length) :
    Plans source root (b.step source pick) ∧
      load (b.step source pick).frames < load b.frames := by
  have found : b.frames[pick]? = some b.frames[pick] := List.getElem?_eq_getElem inside
  have perm : b.frames.Perm (b.frames[pick] :: b.frames.eraseIdx pick) :=
    (List.getElem_cons_eraseIdx_perm inside).symm
  generalize b.frames[pick] = frame at found perm
  obtain ⟨id, work⟩ := frame
  obtain ⟨sound, ready, -⟩ := sound_of_perm perm plans.sound
  have filled := adds_fill source { b with frames := b.frames.eraseIdx pick } id work sound ready
  have stepped : b.step source pick =
      { b with frames := b.frames.eraseIdx pick }.fill source id work := by
    simp only [Builder.step, found]
  rw [stepped]
  refine ⟨⟨filled.grows.sound sound, ?_⟩, ?_⟩
  · exact Stands.work_off perm plans.sound filled root none 0 plans.stands
  · obtain ⟨frames, all, -, -, small⟩ := filled.grows.opened
    have total : load b.frames = work.size + load (b.frames.eraseIdx pick) := by
      rw [load_perm perm, load]
    have size := size_eq_sizeAll_children work
    rw [all, load_append]
    show load frames + load (b.frames.eraseIdx pick) < _
    omega

/-- A whole run keeps the document; with as many steps as there is work it uses up the frames,
in whatever order they are taken. -/
theorem Plans.run {source : Source} {root : Node} {choose : Nat → Nat}
    (inside : ∀ count, 0 < count → choose count < count) (fuel : Nat) (b : Builder)
    (plans : Plans source root b) (enough : load b.frames ≤ fuel) :
    Plans source root (Builder.run source choose fuel b) ∧
      (Builder.run source choose fuel b).frames = [] := by
  induction fuel generalizing b with
  | zero =>
    refine ⟨plans, ?_⟩
    rw [Builder.run]
    by_contra left
    obtain ⟨stepped, less⟩ := plans.step 0 (List.length_pos_iff.mpr left)
    omega
  | succ fuel ih =>
    rw [Builder.run]
    split
    next done => exact ⟨plans, List.isEmpty_iff.mp done⟩
    next left =>
      have some : 0 < b.frames.length := by
        rw [List.length_pos_iff]
        intro none
        exact left (by rw [none]; rfl)
      obtain ⟨stepped, less⟩ := plans.step _ (inside _ some)
      exact ih _ stepped (by omega)

theorem Stands.lt_size {source : Source} {b : Builder} {above : Option Nat} {id : Nat}
    {node : Node} (stands : Stands source b above id node) : id < b.forest.size := by
  cases node
  simp only [Stands] at stands
  obtain ⟨slot, there, -⟩ := stands
  exact lt_size_of_slot there

theorem StandAll.lt_size {source : Source} {b : Builder} {parent : Nat} {ids : List Nat}
    {nodes : List Node} (all : StandAll source b parent ids nodes) (id : Nat)
    (member : id ∈ ids) : id < b.forest.size := by
  induction nodes generalizing ids with
  | nil =>
    simp only [StandAll] at all
    simp [all] at member
  | cons node rest ih =>
    simp only [StandAll] at all
    obtain ⟨first, others, rfl, stands, more⟩ := all
    rcases List.mem_cons.mp member with rfl | later
    · exact stands.lt_size
    · exact ih more later

mutual

/-- Without frames, what a number stands for is what the forest holds below it: numbers grow
from a node to its children, so no tree is deeper than there are numbers. -/
theorem treeFrom_of_stands {source : Source} {b : Builder} (done : b.frames = []) :
    (node : Node) → (depth : Nat) → (above : Option Nat) → (id : Nat) →
      b.forest.size ≤ id + depth + 1 → Stands source b above id node →
      b.forest.treeFrom depth id = node
  | .mk info kids, depth, above, id, deep, stands => by
    simp only [Stands] at stands
    obtain ⟨slot, there, isInfo, -, -, rising, state⟩ := stands
    have stand : StandAll source b id slot.children kids := by
      rcases state with ⟨-, stand⟩ | ⟨node, frame, -, -⟩
      · exact stand
      · rw [done] at frame
        cases frame
    have hasInfo : (b.forest.info? id).getD default = info := by
      rw [Forest.info?, there, Option.map_some, Option.getD_some, isInfo]
    have hasChildren : b.forest.children id = slot.children := by
      rw [Forest.children, there, Option.map_some, Option.getD_some]
    have later := (List.pairwise_cons.mp rising).1
    have below := map_treeFrom_of_standAll done kids (depth - 1) id slot.children
      (fun child member => by have := later child member; omega) stand
    cases depth with
    | zero =>
      have childless : slot.children = [] := by
        rw [List.eq_nil_iff_forall_not_mem]
        intro child member
        have above := later child member
        have bound := stand.lt_size child member
        omega
      rw [childless, List.map_nil] at below
      rw [Forest.treeFrom, hasInfo, below]
    | succ depth =>
      rw [Forest.treeFrom, hasInfo, hasChildren]
      rw [Nat.add_sub_cancel] at below
      rw [below]

theorem map_treeFrom_of_standAll {source : Source} {b : Builder} (done : b.frames = []) :
    (nodes : List Node) → (depth : Nat) → (above : Nat) → (ids : List Nat) →
      (∀ id ∈ ids, b.forest.size ≤ id + depth + 1) → StandAll source b above ids nodes →
      ids.map (b.forest.treeFrom depth) = nodes
  | [], depth, above, ids, _, all => by
    simp only [StandAll] at all
    rw [all, List.map_nil]
  | node :: rest, depth, above, ids, deep, all => by
    simp only [StandAll] at all
    obtain ⟨id, others, rfl, stands, more⟩ := all
    rw [List.map_cons, treeFrom_of_stands done node depth _ id (deep id (by simp)) stands,
      map_treeFrom_of_standAll done rest depth above others
        (fun other member => deep other (by simp [member])) more]

end

/-- At the start all of the document is planned. -/
theorem plans_start (source : Source) (root : SourceNode) :
    Plans source (source.document root).root (start source root) := by
  refine ⟨⟨by simp [start], ?_⟩, ?_⟩
  · intro frame member
    rw [List.mem_singleton.mp member]
    exact ⟨_, rfl, rfl⟩
  · simp only [Source.document, Stands]
    exact ⟨_, rfl, rfl, trivial, rfl, List.pairwise_singleton _ _,
      Or.inr ⟨root, List.mem_singleton.mpr rfl, rfl, rfl⟩⟩

/-- Whatever the order in which frames are taken, the forest ends as the document by
recursion. -/
theorem tree_run (source : Source) (root : SourceNode) (choose : Nat → Nat)
    (inside : ∀ count, 0 < count → choose count < count) :
    (run source choose root.size (start source root)).forest.tree 0 =
      (source.document root).root := by
  obtain ⟨plans, done⟩ := (plans_start source root).run inside root.size _ (by simp [load, start])
  exact treeFrom_of_stands done _ _ none 0 (by omega) plans.stands

end MarkupLint.Builder

namespace MarkupLint

/-- The document that is built is the document by recursion. -/
theorem Source.parsed_eq_document (source : Source) (root : SourceNode) :
    source.parsed root = source.document root := by
  have built := Builder.tree_run source root (fun _ => 0) (fun _ some => some)
  rw [parsed, Builder.build, built]
  rfl

/-- A parser that is given a tree makes the document by recursion of it. -/
theorem Parser.value_parse_tree (parser : Parser) (source : Source) (root : SourceNode) :
    (parser.parse source (.tree root)).2.value = .ok (source.document root) := by
  rw [← source.parsed_eq_document root]
  rfl

end MarkupLint
