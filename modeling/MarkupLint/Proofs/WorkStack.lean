import MarkupLint.Proofs.Contents
import MarkupLint.Source.Build

/-!
What adding to a forest under construction does. Every number of the forest stands for a
tree that is settled from the start (`Builder.Stands`): what is there already, and below an
open frame what recursion makes of the parse tree the frame holds. Adding below a parent
brings new numbers and frames and changes nothing else (`Builder.Grows`), and the numbers
that the parent gets stand for what recursion makes (`Builder.Adds`).

Main results: `Builder.adds_place` for one parse tree and `Builder.adds_fill` for all
children of a frame's node, with a bound on the work of the frames they open.
-/
namespace MarkupLint.Builder

/-- A node that children can be added to: it is there, and of the file of the source. -/
def Ready (source : Source) (b : Builder) (id : Nat) : Prop :=
  ∃ info, b.forest.info? id = some info ∧ info.fileId = source.fileId

/-- Every frame belongs to a node of its own, which is there already. -/
structure Sound (source : Source) (b : Builder) : Prop where
  unique : (b.frames.map Prod.fst).Nodup
  known : ∀ frame ∈ b.frames, Ready source b frame.1

mutual

/-- A number stands for a tree: with its children if it has no frame, and with those that
its frame is to give otherwise. -/
def Stands (source : Source) (b : Builder) (parent : Option Nat) (id : Nat) : Node → Prop
  | .mk info kids =>
      ∃ slot, b.forest.slots[id]? = some slot ∧ slot.info = info ∧
        info.fileId = source.fileId ∧ slot.parent = parent ∧
        (id :: slot.children).Pairwise (· < ·) ∧
        (((∀ frame ∈ b.frames, frame.1 ≠ id) ∧ StandAll source b id slot.children kids) ∨
          ∃ node, (id, node) ∈ b.frames ∧ slot.children = [] ∧
            kids = source.convertAll none [] node.children)

/-- The numbers below a parent stand for trees side by side. -/
def StandAll (source : Source) (b : Builder) (parent : Nat) (ids : List Nat) :
    List Node → Prop
  | [] => ids = []
  | node :: rest =>
      ∃ id others, ids = id :: others ∧ Stands source b (some parent) id node ∧
        StandAll source b parent others rest

end

/-- The work that frames hold: the nodes of their parse trees. -/
def load : List (Nat × SourceNode) → Nat
  | [] => 0
  | frame :: rest => frame.2.size + load rest

/-- Frames have been opened on top of the old ones, each for a new node of its own, with a
bound on their work. -/
def Opens (source : Source) (budget : Nat) (b grown : Builder) : Prop :=
  ∃ frames, grown.frames = frames ++ b.frames ∧ (frames.map Prod.fst).Nodup ∧
    (∀ frame ∈ frames, b.forest.size ≤ frame.1 ∧ Ready source grown frame.1) ∧
    load frames ≤ budget

/-- What adding below a parent may do to a builder: new numbers, new frames for some of
them, and nothing to what was there besides the parent. -/
structure Grows (source : Source) (parent budget : Nat) (b grown : Builder) : Prop where
  size_le : b.forest.size ≤ grown.forest.size
  infos : ∀ id, id < b.forest.size → grown.forest.info? id = b.forest.info? id
  kept : ∀ id, id < b.forest.size → id ≠ parent →
    grown.forest.slots[id]? = b.forest.slots[id]?
  opened : Opens source budget b grown

theorem lt_size_of_slot {b : Builder} {id : Nat} {slot : Slot}
    (there : b.forest.slots[id]? = some slot) : id < b.forest.size := by
  obtain ⟨bound, -⟩ := Array.getElem?_eq_some_iff.mp there
  exact bound

theorem Ready.slot {source : Source} {b : Builder} {id : Nat} (ready : Ready source b id) :
    ∃ slot, b.forest.slots[id]? = some slot ∧ slot.info.fileId = source.fileId := by
  obtain ⟨info, there, inFile⟩ := ready
  obtain ⟨slot, found, rfl⟩ := Option.map_eq_some_iff.mp there
  exact ⟨slot, found, inFile⟩

theorem Ready.lt_size {source : Source} {b : Builder} {id : Nat} (ready : Ready source b id) :
    id < b.forest.size := by
  obtain ⟨slot, there, -⟩ := ready.slot
  exact lt_size_of_slot there

/-- A list of new frames on top of old ones keeps every node to one frame. -/
theorem nodup_frames {old new : List (Nat × SourceNode)} (bound : Nat)
    (uniqueNew : (new.map Prod.fst).Nodup) (uniqueOld : (old.map Prod.fst).Nodup)
    (above : ∀ frame ∈ new, bound ≤ frame.1) (below : ∀ frame ∈ old, frame.1 < bound) :
    ((new ++ old).map Prod.fst).Nodup := by
  rw [List.map_append, List.nodup_append]
  refine ⟨uniqueNew, uniqueOld, ?_⟩
  intro a inNew c inOld same
  obtain ⟨frame, newMember, rfl⟩ := List.mem_map.mp inNew
  obtain ⟨other, oldMember, rfl⟩ := List.mem_map.mp inOld
  have high := above frame newMember
  have low := below other oldMember
  omega

theorem load_append (front back : List (Nat × SourceNode)) :
    load (front ++ back) = load front + load back := by
  induction front with
  | nil => rw [List.nil_append, load, Nat.zero_add]
  | cons frame rest ih => rw [List.cons_append, load, load, ih, Nat.add_assoc]

namespace Grows

variable {source : Source} {b grown : Builder}

theorem refl (source : Source) (parent : Nat) (b : Builder) : Grows source parent 0 b b where
  size_le := Nat.le_refl _
  infos _ _ := rfl
  kept _ _ _ := rfl
  opened := ⟨[], rfl, List.nodup_nil, by simp, Nat.le_refl 0⟩

theorem ready {parent budget id : Nat} (grows : Grows source parent budget b grown)
    (ready : Ready source b id) : Ready source grown id := by
  have old := ready.lt_size
  obtain ⟨info, there, inFile⟩ := ready
  exact ⟨info, (grows.infos id old).trans there, inFile⟩

theorem trans {parent first second : Nat} {later : Builder}
    (one : Grows source parent first b grown) (two : Grows source parent second grown later) :
    Grows source parent (first + second) b later := by
  refine ⟨Nat.le_trans one.size_le two.size_le, ?_, ?_, ?_⟩
  · intro id bound
    rw [two.infos id (Nat.lt_of_lt_of_le bound one.size_le), one.infos id bound]
  · intro id bound other
    rw [two.kept id (Nat.lt_of_lt_of_le bound one.size_le) other, one.kept id bound other]
  · obtain ⟨early, earlyFrames, earlyUnique, earlyBounds, earlyLoad⟩ := one.opened
    obtain ⟨late, lateFrames, lateUnique, lateBounds, lateLoad⟩ := two.opened
    refine ⟨late ++ early, ?_, ?_, ?_, ?_⟩
    · rw [lateFrames, earlyFrames, List.append_assoc]
    · exact nodup_frames grown.forest.size lateUnique earlyUnique
        (fun frame member => (lateBounds frame member).1)
        (fun frame member => (earlyBounds frame member).2.lt_size)
    · intro frame member
      rcases List.mem_append.mp member with inLate | inEarly
      · have bounds := lateBounds frame inLate
        exact ⟨Nat.le_trans one.size_le bounds.1, bounds.2⟩
      · have bounds := earlyBounds frame inEarly
        exact ⟨bounds.1, two.ready bounds.2⟩
    · rw [load_append]
      omega

theorem weaken {parent budget more : Nat} (grows : Grows source parent budget b grown)
    (enough : budget ≤ more) : Grows source parent more b grown := by
  obtain ⟨frames, all, unique, bounds, small⟩ := grows.opened
  exact ⟨grows.size_le, grows.infos, grows.kept, frames, all, unique, bounds,
    Nat.le_trans small enough⟩

theorem sound {parent budget : Nat} (grows : Grows source parent budget b grown)
    (sound : Sound source b) : Sound source grown := by
  obtain ⟨frames, all, unique, bounds, -⟩ := grows.opened
  constructor
  · rw [all]
    exact nodup_frames b.forest.size unique sound.unique
      (fun frame member => (bounds frame member).1)
      (fun frame member => (sound.known frame member).lt_size)
  · intro frame member
    rw [all] at member
    rcases List.mem_append.mp member with new | old
    · exact (bounds frame new).2
    · exact grows.ready (sound.known frame old)

/-- The frames of an old node are the same before and after. -/
theorem mem_frames {parent budget : Nat} (grows : Grows source parent budget b grown)
    (frame : Nat × SourceNode) (old : frame.1 < b.forest.size) :
    frame ∈ grown.frames ↔ frame ∈ b.frames := by
  obtain ⟨frames, all, -, bounds, -⟩ := grows.opened
  rw [all, List.mem_append]
  refine or_iff_right ?_
  intro new
  have above := (bounds frame new).1
  omega

end Grows

mutual

/-- Adding below a parent leaves alone what stands at later numbers. -/
theorem Stands.grow {source : Source} {parent budget : Nat} {b grown : Builder}
    (grows : Grows source parent budget b grown) :
    (node : Node) → (above : Option Nat) → (id : Nat) → parent < id →
      Stands source b above id node → Stands source grown above id node
  | .mk info kids, above, id, later, stands => by
    simp only [Stands] at stands ⊢
    obtain ⟨slot, there, isInfo, inFile, linked, rising, state⟩ := stands
    have old := lt_size_of_slot there
    refine ⟨slot, ?_, isInfo, inFile, linked, rising, ?_⟩
    · rw [grows.kept id old (by omega), there]
    · rcases state with ⟨closed, all⟩ | ⟨node, frame, empty, planned⟩
      · left
        refine ⟨?_, StandAll.grow grows kids id slot.children ?_ all⟩
        · intro frame member same
          exact closed frame ((grows.mem_frames frame (same ▸ old)).mp member) same
        · intro child member
          have below := (List.pairwise_cons.mp rising).1 child member
          omega
      · exact Or.inr ⟨node, (grows.mem_frames (id, node) old).mpr frame, empty, planned⟩

theorem StandAll.grow {source : Source} {parent budget : Nat} {b grown : Builder}
    (grows : Grows source parent budget b grown) :
    (nodes : List Node) → (above : Nat) → (ids : List Nat) → (∀ id ∈ ids, parent < id) →
      StandAll source b above ids nodes → StandAll source grown above ids nodes
  | [], above, ids, _, all => by
    simpa only [StandAll] using all
  | node :: rest, above, ids, later, all => by
    simp only [StandAll] at all ⊢
    obtain ⟨id, others, rfl, first, more⟩ := all
    refine ⟨id, others, rfl, Stands.grow grows node _ id (later id (by simp)) first, ?_⟩
    exact StandAll.grow grows rest _ others
      (fun other member => later other (by simp [member])) more

end

theorem StandAll.append {source : Source} {b : Builder} {parent : Nat} {ids others : List Nat}
    {nodes more : List Node} (front : StandAll source b parent ids nodes)
    (back : StandAll source b parent others more) :
    StandAll source b parent (ids ++ others) (nodes ++ more) := by
  induction nodes generalizing ids with
  | nil =>
    simp only [StandAll] at front
    rw [front]
    exact back
  | cons node rest ih =>
    simp only [StandAll] at front
    obtain ⟨id, left, rfl, first, later⟩ := front
    simp only [List.cons_append, StandAll]
    exact ⟨id, left ++ others, rfl, first, ih later⟩

/-- The effect of adding nodes below a parent, with a bound on the work of the new frames. -/
structure Adds (source : Source) (parent budget : Nat) (b grown : Builder)
    (nodes : List Node) : Prop where
  grows : Grows source parent budget b grown
  children : ∃ ids, StandAll source grown parent ids nodes ∧ ids.Pairwise (· < ·) ∧
    (∀ id ∈ ids, b.forest.size ≤ id ∧ id < grown.forest.size) ∧
    ∀ slot, b.forest.slots[parent]? = some slot →
      grown.forest.slots[parent]? = some { slot with children := slot.children ++ ids }

namespace Adds

theorem none (source : Source) (parent : Nat) (b : Builder) :
    Adds source parent 0 b b [] := by
  refine ⟨Grows.refl source parent b, [], by simp only [StandAll], List.Pairwise.nil, by simp, ?_⟩
  intro slot there
  rw [there, List.append_nil]

theorem append {source : Source} {parent first second : Nat} {b grown later : Builder}
    {nodes more : List Node} (ready : Ready source b parent)
    (one : Adds source parent first b grown nodes)
    (two : Adds source parent second grown later more) :
    Adds source parent (first + second) b later (nodes ++ more) := by
  have old := ready.lt_size
  obtain ⟨ids, stand, rising, bounds, appended⟩ := one.children
  obtain ⟨others, standLater, risingLater, boundsLater, appendedLater⟩ := two.children
  refine ⟨one.grows.trans two.grows, ids ++ others, ?_, ?_, ?_, ?_⟩
  · refine StandAll.append (StandAll.grow two.grows nodes parent ids ?_ stand) standLater
    intro id member
    exact Nat.lt_of_lt_of_le old (bounds id member).1
  · rw [List.pairwise_append]
    refine ⟨rising, risingLater, ?_⟩
    intro id member other memberLater
    exact Nat.lt_of_lt_of_le (bounds id member).2 (boundsLater other memberLater).1
  · intro id member
    rcases List.mem_append.mp member with front | back
    · exact ⟨(bounds id front).1, Nat.lt_of_lt_of_le (bounds id front).2 two.grows.size_le⟩
    · exact ⟨Nat.le_trans one.grows.size_le (boundsLater id back).1, (boundsLater id back).2⟩
  · intro slot there
    rw [appendedLater _ (appended slot there), List.append_assoc]

end Adds

/-- A node of the file of its parent stays as it is. -/
theorem within_self (info : Info) : info.within info.fileId = info := by
  unfold Info.within
  split <;> rfl

/-- A new node leaves what the others say as it is. -/
theorem info?_alloc (b : Builder) {parent : Nat} {slot : Slot} (info : Info)
    (there : b.forest.slots[parent]? = some slot) :
    (b.forest.alloc info).info? parent = some slot.info := by
  have old : parent < b.forest.slots.size := lt_size_of_slot there
  rw [Forest.info?, Forest.alloc, Array.getElem?_push_lt old, ← Array.getElem?_eq_getElem old,
    there, Option.map_some]

/-- What the numbers hold after a node was added below a parent of its file. -/
theorem slots_attach (b : Builder) (parent : Nat) (info : Info) (slot : Slot)
    (there : b.forest.slots[parent]? = some slot) (inFile : slot.info.fileId = info.fileId)
    (id : Nat) :
    (b.attach parent info).forest.slots[id]? =
      if id = parent then some { slot with children := slot.children ++ [b.forest.size] }
      else if id = b.forest.size then some { info := info, parent := some parent }
      else b.forest.slots[id]? := by
  have old : parent < b.forest.slots.size := lt_size_of_slot there
  simp only [attach, Forest.add, b.info?_alloc info there, Array.getElem?_modify, inFile]
  simp only [Forest.alloc, Forest.size, Array.getElem?_push]
  by_cases isParent : id = parent
  · have notNew : ¬ parent = b.forest.slots.size := by omega
    simp [isParent, notNew, Ne.symm notNew, there]
  · by_cases isNew : id = b.forest.slots.size
    · have notParent : ¬ parent = b.forest.slots.size := by omega
      simp [isNew, notParent, within_self, Ne.symm notParent]
    · have notParent : ¬ parent = id := fun same => isParent same.symm
      have notNew : ¬ b.forest.slots.size = id := fun same => isNew same.symm
      simp [isParent, isNew, notParent, notNew]

theorem size_attach (b : Builder) (parent : Nat) (info : Info) (slot : Slot)
    (there : b.forest.slots[parent]? = some slot) :
    (b.attach parent info).forest.size = b.forest.size + 1 := by
  simp only [attach, Forest.add, b.info?_alloc info there, Forest.size, Array.size_modify]
  exact Array.size_push _

/-- A node that was added below a parent, and what has come to it or below it since. -/
theorem adds_of_attach {source : Source} {b grown : Builder} {parent budget : Nat} {info : Info}
    {node : Node} (ready : Ready source b parent) (inFile : info.fileId = source.fileId)
    (size_le : b.forest.size + 1 ≤ grown.forest.size)
    (kept : ∀ id, id < b.forest.size + 1 → id ≠ b.forest.size →
      grown.forest.slots[id]? = (b.attach parent info).forest.slots[id]?)
    (opened : Opens source budget b grown)
    (stands : Stands source grown (some parent) b.forest.size node) :
    Adds source parent budget b grown [node] := by
  obtain ⟨slot, there, slotFile⟩ := ready.slot
  have old := lt_size_of_slot there
  have slots := slots_attach b parent info slot there (slotFile.trans inFile.symm)
  have appended : grown.forest.slots[parent]? =
      some { slot with children := slot.children ++ [b.forest.size] } := by
    rw [kept parent (by omega) (by omega), slots, if_pos rfl]
  have others : ∀ id, id < b.forest.size → id ≠ parent →
      grown.forest.slots[id]? = b.forest.slots[id]? := by
    intro id bound other
    rw [kept id (by omega) (by omega), slots, if_neg other, if_neg (by omega)]
  refine ⟨⟨by omega, ?_, others, opened⟩, [b.forest.size], ?_, List.pairwise_singleton _ _, ?_, ?_⟩
  · intro id bound
    by_cases isParent : id = parent
    · rw [isParent, Forest.info?, Forest.info?, appended, there]
      rfl
    · rw [Forest.info?, Forest.info?, others id bound isParent]
  · simp only [StandAll]
    exact ⟨b.forest.size, [], rfl, stands, rfl⟩
  · intro id member
    rw [List.mem_singleton.mp member]
    exact ⟨Nat.le_refl _, size_le⟩
  · intro found same
    obtain rfl : slot = found := Option.some.inj (there.symm.trans same)
    exact appended

section Placing

variable {source : Source} {b : Builder} {parent : Nat} {info : Info}

/-- The slot of a node that has just been added. -/
theorem slot_of_attach (ready : Ready source b parent) (inFile : info.fileId = source.fileId) :
    (b.attach parent info).forest.slots[b.forest.size]? =
        some { info := info, parent := some parent } ∧
      (b.attach parent info).forest.size = b.forest.size + 1 := by
  obtain ⟨slot, there, slotFile⟩ := ready.slot
  have old := lt_size_of_slot there
  rw [slots_attach b parent info slot there (slotFile.trans inFile.symm), if_neg (by omega),
    if_pos rfl]
  exact ⟨rfl, size_attach b parent info slot there⟩

/-- A new node that gets no children. -/
theorem adds_leaf (sound : Sound source b) (ready : Ready source b parent)
    (inFile : info.fileId = source.fileId) (budget : Nat) :
    Adds source parent budget b (b.attach parent info) [.mk info []] := by
  obtain ⟨slot, size⟩ := slot_of_attach ready inFile
  refine adds_of_attach ready inFile (by omega) (fun _ _ _ => rfl)
    ⟨[], rfl, List.nodup_nil, by simp, Nat.zero_le _⟩ ?_
  simp only [Stands]
  refine ⟨_, slot, rfl, inFile, rfl, List.pairwise_singleton _ _, Or.inl ⟨?_, ?_⟩⟩
  · intro frame member same
    have known := (sound.known frame member).lt_size
    omega
  · simp only [StandAll]

/-- A new node that a frame is to give its children. -/
theorem adds_open (ready : Ready source b parent) (inFile : info.fileId = source.fileId)
    (work : SourceNode) :
    Adds source parent work.size b
      { b.attach parent info with
        frames := (b.forest.size, work) :: (b.attach parent info).frames }
      [.mk info (source.convertAll none [] work.children)] := by
  obtain ⟨slot, size⟩ := slot_of_attach ready inFile
  refine adds_of_attach ready inFile (Nat.le_of_eq size.symm) (fun _ _ _ => rfl)
    ⟨[(b.forest.size, work)], rfl, by simp, ?_, by simp [load]⟩ ?_
  · intro frame member
    rw [List.mem_singleton.mp member]
    exact ⟨Nat.le_refl _, info, by rw [Forest.info?, slot]; rfl, inFile⟩
  · simp only [Stands]
    exact ⟨_, slot, rfl, inFile, rfl, List.pairwise_singleton _ _,
      Or.inr ⟨work, by simp, rfl, rfl⟩⟩

/-- A new node that gets its children at once. -/
theorem adds_filled {grown : Builder} {budget : Nat} {kids : List Node} (sound : Sound source b)
    (ready : Ready source b parent) (inFile : info.fileId = source.fileId)
    (values : Adds source b.forest.size budget (b.attach parent info) grown kids) :
    Adds source parent budget b grown [.mk info kids] := by
  obtain ⟨slot, size⟩ := slot_of_attach ready inFile
  obtain ⟨frames, all, unique, bounds, small⟩ := values.grows.opened
  obtain ⟨ids, stand, rising, between, appended⟩ := values.children
  refine adds_of_attach ready inFile ?_ ?_ ⟨frames, all, unique, ?_, small⟩ ?_
  · rw [← size]
    exact values.grows.size_le
  · intro id bound other
    exact values.grows.kept id (by omega) other
  · intro frame member
    have above := (bounds frame member).1
    exact ⟨by omega, (bounds frame member).2⟩
  · simp only [Stands]
    refine ⟨_, appended _ slot, rfl, inFile, rfl, ?_, Or.inl ⟨?_, stand⟩⟩
    · rw [List.nil_append, List.pairwise_cons]
      refine ⟨?_, rising⟩
      intro id member
      have above := (between id member).1
      omega
    · intro frame member same
      rw [all] at member
      rcases List.mem_append.mp member with new | old
      · have above := (bounds frame new).1
        omega
      · have known := (sound.known frame old).lt_size
        omega

end Placing

theorem Adds.weaken {source : Source} {parent budget more : Nat} {b grown : Builder}
    {nodes : List Node} (adds : Adds source parent budget b grown nodes)
    (enough : budget ≤ more) : Adds source parent more b grown nodes :=
  ⟨adds.grows.weaken enough, adds.children⟩

mutual

/-- Placing a parse tree adds the node that recursion makes of it. -/
theorem adds_place (source : Source) :
    (node : SourceNode) → (b : Builder) → (parent : Nat) → (comments : List String) →
      Sound source b → Ready source b parent →
      Adds source parent node.size b (b.place source parent comments node)
        [source.convert comments node]
  | .mk type span children, b, parent, comments, sound, ready => by
    have inFile : (Source.led comments (source.info (.mk type span children))).fileId =
        source.fileId := by rw [Source.led_fileId, Source.info_fileId]
    have opened := adds_open ready inFile (.mk type span children)
    rw [place.eq_def, Source.convert.eq_def]
    dsimp only
    match (source.info (.mk type span children)).kind with
    | .comment => exact adds_leaf sound ready inFile _
    | .attribute =>
      cases children with
      | nil => exact adds_leaf sound ready inFile _
      | cons name values =>
        obtain ⟨slot, -⟩ := slot_of_attach ready inFile
        have grownSound : Sound source (b.attach parent
            (Source.led comments (source.info (.mk type span (name :: values))))) :=
          (adds_leaf sound ready inFile 0).grows.sound sound
        have added := adds_placeValues source values _ b.forest.size grownSound
          ⟨_, by rw [Forest.info?, slot]; rfl, inFile⟩
        refine (adds_filled sound ready inFile added).weaken ?_
        simp only [SourceNode.size, SourceNode.sizeAll]
        omega
    | .textRun | .expression | .element | .other => exact opened

theorem adds_placeValues (source : Source) :
    (values : List SourceNode) → (b : Builder) → (parent : Nat) → Sound source b →
      Ready source b parent →
      Adds source parent (SourceNode.sizeAll values) b (b.placeValues source parent values)
        (source.convertValues values)
  | [], b, parent, _, _ => by
    simp only [placeValues, Source.convertValues, SourceNode.sizeAll]
    exact Adds.none source parent b
  | node :: rest, b, parent, sound, ready => by
    simp only [placeValues, Source.convertValues, SourceNode.sizeAll]
    split
    next literal =>
      exact (adds_placeValues source rest b parent sound ready).weaken (Nat.le_add_left _ _)
    next =>
      have first := adds_place source node b parent [] sound ready
      exact first.append ready
        (adds_placeValues source rest _ parent (first.grows.sound sound) (first.grows.ready ready))

end

namespace Row

theorem runInfo_fileId (source : Source) (first last : Span) :
    (source.runInfo first last).fileId = source.fileId :=
  rfl

/-- Closing a run adds it, if there is one. -/
theorem adds_flush (source : Source) (parent : Nat) (row : Row) (sound : Sound source row.builder)
    (ready : Ready source row.builder parent) :
    Adds source parent 0 row.builder (row.flush source parent).builder
        (Source.closeRun row.comments (source.run? row.pieces)).1 ∧
      (row.flush source parent).comments =
        (Source.closeRun row.comments (source.run? row.pieces)).2 := by
  unfold flush
  cases run : source.run? row.pieces with
  | none => exact ⟨Adds.none source parent row.builder, rfl⟩
  | some info =>
    have inFile : info.fileId = source.fileId := by
      obtain ⟨pieces, -, rfl⟩ := Option.map_eq_some_iff.mp run
      exact runInfo_fileId source pieces.1 pieces.2
    exact ⟨adds_leaf sound ready ((Source.led_fileId _ _).trans inFile) 0, rfl⟩

/-- The children that a row has still to take, and the run that it closes at its end. -/
theorem adds_foldl_take (source : Source) (parent : Nat) (nodes : List SourceNode) (row : Row)
    (sound : Sound source row.builder) (ready : Ready source row.builder parent) :
    Adds source parent (SourceNode.sizeAll nodes) row.builder
      ((nodes.foldl (take source parent) row).flush source parent).builder
      (source.convertAll row.pieces row.comments nodes) := by
  induction nodes generalizing row with
  | nil =>
    simp only [List.foldl_nil, SourceNode.sizeAll, Source.convertAll]
    exact (adds_flush source parent row sound ready).1
  | cons node rest ih =>
    simp only [List.foldl_cons, SourceNode.sizeAll, Source.convertAll]
    by_cases text : node.isText = true
    · rw [if_pos text, take, if_pos text]
      exact (ih { row with pieces := Source.extend row.pieces node.span } sound ready).weaken
        (Nat.le_add_left _ _)
    · obtain ⟨flushed, comments⟩ := adds_flush source parent row sound ready
      have readyFlushed := flushed.grows.ready ready
      have placed := adds_place source node _ parent (row.flush source parent).comments
        (flushed.grows.sound sound) readyFlushed
      have soundPlaced := placed.grows.sound (flushed.grows.sound sound)
      have others := ih
        { builder := (row.flush source parent).builder.place source parent
            (row.flush source parent).comments node
          comments := Source.leadingAfter (row.flush source parent).comments (source.info node) }
        soundPlaced (placed.grows.ready readyFlushed)
      have all := flushed.append ready (placed.append readyFlushed others)
      rw [if_neg text, take, if_neg text]
      rw [comments] at all
      simpa only [Nat.zero_add, List.singleton_append, comments] using all

end Row

/-- Working off a frame adds all that recursion puts below its node. -/
theorem adds_fill (source : Source) (b : Builder) (parent : Nat) (node : SourceNode)
    (sound : Sound source b) (ready : Ready source b parent) :
    Adds source parent (SourceNode.sizeAll node.children) b (b.fill source parent node)
      (source.convertAll none [] node.children) :=
  Row.adds_foldl_take source parent node.children { builder := b } sound ready

end MarkupLint.Builder
