import MarkupLint.Proofs.Attachment
import MarkupLint.Proofs.ForestLinks
import MarkupLint.Proofs.StackRun

/-!
Frames taken in any order. What a builder adds keeps links and lists of its forest in
agreement (`Forest.Joined`), one added node at a time (`Builder.joined_attach`), hence over a
whole frame (`Builder.joined_fill`). Work may take up any frame at any time
(`Builder.Works`); whichever it takes up, it ends, with the document that recursion makes
(`Builder.document_of_works`).
-/
namespace MarkupLint

/-- Nodes of one file, each linked to the one list that it is in. Numbers grow from a parent to
its children, and the first node alone is in no list. -/
structure Forest.Joined (fileId : String) (forest : Forest) : Prop where
  inFile : ∀ id info, forest.info? id = some info → info.fileId = fileId
  linked : ∀ id parent, forest.parent? id = some parent ↔ id ∈ forest.children parent
  once : ∀ parent, (forest.children parent).Nodup
  rising : ∀ id parent, forest.parent? id = some parent → parent < id
  rooted : ∀ id, id < forest.size → (forest.parent? id = none ↔ id = 0)

theorem Forest.Joined.links {fileId : String} {forest : Forest} (joined : forest.Joined fileId) :
    forest.Linked :=
  ⟨fun parent id => (joined.linked id parent).symm, joined.once⟩

namespace Builder

section Attach

variable {source : Source} {b : Builder} {parent : Nat} {info : Info}

theorem info?_attach (ready : Ready source b parent) (inFile : info.fileId = source.fileId)
    (id : Nat) :
    (b.attach parent info).forest.info? id =
      if id = b.forest.size then some info else b.forest.info? id := by
  obtain ⟨slot, there, slotFile⟩ := ready.slot
  have old := lt_size_of_slot there
  have slots := slots_attach b parent info slot there (slotFile.trans inFile.symm) id
  by_cases isParent : id = parent
  · have notNew : parent ≠ b.forest.size := by omega
    subst isParent
    rw [if_pos rfl] at slots
    simp [Forest.info?, slots, there, notNew]
  · rw [if_neg isParent] at slots
    by_cases isNew : id = b.forest.size
    · rw [Forest.info?, slots, if_pos isNew, if_pos isNew, Option.map_some]
    · rw [Forest.info?, slots, if_neg isNew, if_neg isNew, Forest.info?]

/-- A node of a joined forest can be added to. -/
theorem ready_of_joined (joined : b.forest.Joined source.fileId) (inside : parent < b.forest.size) :
    Ready source b parent := by
  have there : b.forest.slots[parent]? = some b.forest.slots[parent] :=
    Array.getElem?_eq_getElem inside
  have tells : b.forest.info? parent = some b.forest.slots[parent].info := by
    rw [Forest.info?, there, Option.map_some]
  exact ⟨_, tells, joined.inFile parent _ tells⟩

/-- A node that is added is in the list of its parent, and in no other. -/
theorem joined_attach (joined : b.forest.Joined source.fileId) (inside : parent < b.forest.size)
    (inFile : info.fileId = source.fileId) :
    (b.attach parent info).forest.Joined source.fileId ∧
      (b.attach parent info).forest.size = b.forest.size + 1 := by
  have ready := ready_of_joined joined inside
  have infos := info?_attach ready inFile
  have size : (b.attach parent info).forest.size = b.forest.size + 1 :=
    (slot_of_attach ready inFile).2
  have known : parent < (b.forest.alloc info).size := by
    rw [Forest.size_alloc]
    omega
  have made : b.forest.size < (b.forest.alloc info).size := by
    rw [Forest.size_alloc]
    omega
  have parents (id : Nat) : (b.attach parent info).forest.parent? id =
      if id = b.forest.size then some parent else b.forest.parent? id := by
    rw [attach, Forest.parent?_add known made, Forest.parent?_alloc]
  have links : (b.attach parent info).forest.Linked := by
    refine (joined.links.alloc info).add known made ?_
    rw [Forest.parent?_alloc, Forest.parent?_eq_none (Nat.le_refl _)]
  refine ⟨⟨?_, ?_, links.nodup, ?_, ?_⟩, size⟩
  · intro id found isFound
    rw [infos id] at isFound
    split at isFound
    · exact Option.some.inj isFound ▸ inFile
    · exact joined.inFile id found isFound
  · exact fun id above => (links.mem_children_iff above id).symm
  · intro id above linked
    rw [parents id] at linked
    split at linked
    next isNew => exact isNew ▸ Option.some.inj linked ▸ inside
    next => exact joined.rising id above linked
  · intro id bound
    rw [parents id]
    split
    next isNew => exact iff_of_false (Option.some_ne_none parent) (by omega)
    next old => exact joined.rooted id (by omega)

end Attach

section Fill

variable (source : Source)

mutual

theorem joined_place :
    (node : SourceNode) → (b : Builder) → (parent : Nat) → (comments : List String) →
      b.forest.Joined source.fileId → parent < b.forest.size →
      (b.place source parent comments node).forest.Joined source.fileId ∧
        b.forest.size ≤ (b.place source parent comments node).forest.size
  | .mk type span children, b, parent, comments, joined, inside => by
    have inFile : (Source.led comments (source.info (.mk type span children))).fileId =
        source.fileId := by rw [Source.led_fileId, Source.info_fileId]
    obtain ⟨grown, size⟩ := joined_attach joined inside inFile
    have added := And.intro grown (Nat.le_of_lt (Nat.lt_of_lt_of_eq (Nat.lt_succ_self _) size.symm))
    rw [place.eq_def]
    dsimp only
    match (source.info (.mk type span children)).kind with
    | .comment => exact added
    | .attribute =>
      cases children with
      | nil => exact added
      | cons name values =>
        have filled := joined_placeValues values _ b.forest.size grown (by omega)
        exact ⟨filled.1, Nat.le_trans added.2 filled.2⟩
    | .textRun | .expression | .element | .other => exact added

theorem joined_placeValues :
    (values : List SourceNode) → (b : Builder) → (parent : Nat) →
      b.forest.Joined source.fileId → parent < b.forest.size →
      (b.placeValues source parent values).forest.Joined source.fileId ∧
        b.forest.size ≤ (b.placeValues source parent values).forest.size
  | [], b, parent, joined, _ => by
    rw [placeValues]
    exact ⟨joined, Nat.le_refl _⟩
  | node :: rest, b, parent, joined, inside => by
    rw [placeValues]
    split
    · exact joined_placeValues rest b parent joined inside
    · obtain ⟨placed, size⟩ := joined_place node b parent [] joined inside
      have others := joined_placeValues rest _ parent placed (Nat.lt_of_lt_of_le inside size)
      exact ⟨others.1, Nat.le_trans size others.2⟩

end

theorem joined_flush (parent : Nat) (row : Row)
    (joined : row.builder.forest.Joined source.fileId)
    (inside : parent < row.builder.forest.size) :
    (row.flush source parent).builder.forest.Joined source.fileId ∧
      row.builder.forest.size ≤ (row.flush source parent).builder.forest.size := by
  unfold Row.flush
  cases run : source.run? row.pieces with
  | none => exact ⟨joined, Nat.le_refl _⟩
  | some info =>
    have inFile : info.fileId = source.fileId := by
      obtain ⟨pieces, -, rfl⟩ := Option.map_eq_some_iff.mp run
      exact Row.runInfo_fileId source pieces.1 pieces.2
    obtain ⟨grown, size⟩ :=
      joined_attach joined inside ((Source.led_fileId row.comments _).trans inFile)
    exact ⟨grown, by dsimp only; omega⟩

theorem joined_foldl_take (parent : Nat) (nodes : List SourceNode) (row : Row)
    (joined : row.builder.forest.Joined source.fileId)
    (inside : parent < row.builder.forest.size) :
    (nodes.foldl (Row.take source parent) row).builder.forest.Joined source.fileId ∧
      parent < (nodes.foldl (Row.take source parent) row).builder.forest.size := by
  induction nodes generalizing row with
  | nil => exact ⟨joined, inside⟩
  | cons node rest ih =>
    rw [List.foldl_cons, Row.take]
    split
    · exact ih { row with pieces := Source.extend row.pieces node.span } joined inside
    · obtain ⟨flushed, size⟩ := joined_flush source parent row joined inside
      have insideFlushed := Nat.lt_of_lt_of_le inside size
      obtain ⟨placed, sizePlaced⟩ := joined_place source node _ parent
        (row.flush source parent).comments flushed insideFlushed
      exact ih _ placed (Nat.lt_of_lt_of_le insideFlushed sizePlaced)

/-- Giving a node its children keeps links and lists in agreement. -/
theorem joined_fill (b : Builder) (parent : Nat) (node : SourceNode)
    (joined : b.forest.Joined source.fileId) (inside : parent < b.forest.size) :
    (b.fill source parent node).forest.Joined source.fileId := by
  obtain ⟨taken, insideTaken⟩ :=
    joined_foldl_take source parent node.children { builder := b } joined inside
  exact (joined_flush source parent _ taken insideTaken).1

end Fill

theorem joined_start (source : Source) (root : SourceNode) :
    (start source root).forest.Joined source.fileId := by
  have slots (id : Nat) : (start source root).forest.slots[id]? =
      if id = 0 then some { info := { kind := .other, fileId := source.fileId } } else none := by
    cases id <;> rfl
  constructor
  · intro id info found
    rw [Forest.info?, slots] at found
    split at found
    · rw [← Option.some.inj found]
    · cases found
  · intro id parent
    rw [Forest.parent?, Forest.children, slots, slots]
    split <;> split <;> simp
  · intro parent
    rw [Forest.children, slots]
    split <;> exact List.nodup_nil
  · intro id parent linked
    rw [Forest.parent?, slots] at linked
    split at linked <;> cases linked
  · intro id bound
    rw [Forest.parent?, slots]
    have first : id = 0 := Nat.lt_one_iff.mp bound
    rw [if_pos first]
    exact iff_of_true rfl first

/-- Work on frames one after another, each of them any one that there is. -/
inductive Works (source : Source) : Builder → Nat → Builder → Prop
  | done (b : Builder) : Works source b 0 b
  | step {b later : Builder} {count : Nat} (pick : Nat) (inside : pick < b.frames.length)
      (rest : Works source (b.step source pick) count later) : Works source b (count + 1) later

/-- Every step uses up some of the work that there is, keeps what is planned and keeps links and
lists in agreement. -/
theorem Works.keeps {source : Source} {root : Node} {b later : Builder} {count : Nat}
    (works : Works source b count later) (plans : Plans source root b)
    (joined : b.forest.Joined source.fileId) :
    Plans source root later ∧ later.forest.Joined source.fileId ∧
      count + load later.frames ≤ load b.frames := by
  induction works with
  | done b => exact ⟨plans, joined, by omega⟩
  | @step b later count pick inside _ ih =>
    obtain ⟨stepped, less⟩ := plans.step pick inside
    have known := (plans.sound.known _ (List.getElem_mem inside)).lt_size
    have filled : (b.step source pick).forest.Joined source.fileId := by
      rw [Builder.step, List.getElem?_eq_getElem inside]
      exact joined_fill source { b with frames := b.frames.eraseIdx pick } _ _ joined known
    obtain ⟨laterPlans, laterJoined, left⟩ := ih stepped filled
    exact ⟨laterPlans, laterJoined, by omega⟩

/-- A run with a choice of frames takes them up one after another. -/
theorem exists_works_run (source : Source) (choose : Nat → Nat)
    (inside : ∀ count, 0 < count → choose count < count) (fuel : Nat) (b : Builder) :
    ∃ count, Works source b count (run source choose fuel b) := by
  induction fuel generalizing b with
  | zero => exact ⟨0, .done b⟩
  | succ fuel ih =>
    rw [run]
    split
    · exact ⟨0, .done b⟩
    next left =>
      have some : 0 < b.frames.length :=
        List.length_pos_iff.mpr fun none => left (List.isEmpty_iff.mpr none)
      obtain ⟨count, rest⟩ := ih (b.step source (choose b.frames.length))
      exact ⟨count + 1, .step _ (inside _ some) rest⟩

/-- Building ends, and so does work that takes up the frames in any other order, after no more
steps than the parse tree has nodes. All along, nodes are of the file of the source and linked
to the one list they are in. In the end there is the document that recursion makes of the parse
tree, whose comments and runs are without children and whose runs stand apart. -/
theorem document_of_works (source : Source) (root : SourceNode) :
    (∃ count b, Works source (start source root) count b ∧ b.frames = [] ∧
      build source root = b.forest) ∧
    ∀ count b, Works source (start source root) count b →
      count ≤ root.size ∧ b.forest.Joined source.fileId ∧
        (b.frames = [] →
          b.forest.tree 0 = (source.document root).root ∧
            ∀ node ∈ (b.forest.tree 0).nodes, Node.Attached source.fileId node) := by
  have plans := plans_start source root
  have enough : load (start source root).frames = root.size := Nat.add_zero _
  constructor
  · obtain ⟨count, works⟩ :=
      exists_works_run source (fun _ => 0) (fun _ some => some) root.size
        (start source root)
    obtain ⟨-, finished⟩ := plans.run (fun _ some => some) root.size _ (Nat.le_of_eq enough)
    exact ⟨count, _, works, finished, rfl⟩
  · intro count b works
    obtain ⟨laterPlans, joined, left⟩ := works.keeps plans (joined_start source root)
    refine ⟨by omega, joined, ?_⟩
    intro finished
    have tree : b.forest.tree 0 = (source.document root).root :=
      treeFrom_of_stands finished _ _ none 0 (by omega) laterPlans.stands
    exact ⟨tree, tree ▸ source.attached_document root⟩

end Builder

end MarkupLint
