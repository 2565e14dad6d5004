import Mathlib.Data.List.Induction
import NameService.Catalog
import NameService.Proofs.Tree.Walk

/-!
# The log retells the tree

A call either changes nothing, or it changes the tree by an operation that
succeeds and logs that operation under the next transaction id. So at every
moment the records of the log, applied one after the other to an empty tree,
all succeed and give the tree that is served.
-/

namespace NameService

namespace Tree

/-- Carry out mutations in order, up to the first that fails. -/
def applyAll : Tree → List Operation → Except TreeError Tree
  | tree, [] => .ok tree
  | tree, operation :: rest =>
      match tree.apply operation with
      | (tree, .ok _) => tree.applyAll rest
      | (_, .error cause) => .error cause

/-- One more mutation that succeeds extends a series of them. -/
theorem applyAll_append_singleton
    {tree middle after : Tree}
    {operations : List Operation}
    {operation : Operation}
    {made : Bool}
    (front : tree.applyAll operations = .ok middle)
    (last : middle.apply operation = (after, .ok made)) :
    tree.applyAll (operations ++ [operation]) = .ok after := by
  induction operations generalizing tree with
  | nil =>
      obtain rfl : tree = middle := by injection front
      simp [applyAll, last]
  | cons first rest hypothesis =>
      rw [List.cons_append, applyAll]
      rw [applyAll] at front
      split at front
      · exact hypothesis front
      · cases front

end Tree

namespace Catalog

/-- Carry out a mutation that a client asks for. -/
def mutate (catalog : Catalog) : Operation → Catalog × Except ServiceError Bool
  | .makeDirectory path => catalog.makeDirectory path
  | .createFile path => catalog.createFile path

/-- A call of the catalog. -/
inductive Call
  /-- A client asks for a mutation. -/
  | mutate (operation : Operation)
  /-- The catalog is told to stop. -/
  | stop

/-- Carry out a call. -/
def call (catalog : Catalog) : Call → Catalog × Except ServiceError Bool
  | .mutate operation => catalog.mutate operation
  | .stop => (catalog.stop, .ok true)

/-- Carry out calls in order. -/
def run (catalog : Catalog) (calls : List Call) : Catalog :=
  calls.foldl (fun catalog call => (catalog.call call).1) catalog

theorem run_append_singleton
    (catalog : Catalog)
    (calls : List Call)
    (last : Call) :
    catalog.run (calls ++ [last]) = ((catalog.run calls).call last).1 := by
  simp [run]

/-- A mutation of the tree succeeded and was logged, and nothing else
changed. -/
def Logs
    (catalog : Catalog)
    (operation : Operation)
    (outcome : Catalog × Except ServiceError Bool) : Prop :=
  ∃ tree made,
    catalog.tree.apply operation = (tree, .ok made) ∧
    outcome =
      ({ catalog with tree := tree, log := (catalog.log.append operation).1 },
        .ok true)

/-- Making a directory changes nothing, or it succeeds and is logged. -/
theorem makeDirectory_cases (catalog : Catalog) (path : String) :
    (catalog.makeDirectory path).1 = catalog ∨
      catalog.Logs (.makeDirectory path) (catalog.makeDirectory path) := by
  obtain ⟨tree, log, running⟩ := catalog
  cases running with
  | false => exact .inl rfl
  | true =>
      cases outcome : tree.makeDirectory path with
      | mk after answer =>
          cases answer with
          | error cause =>
              have same : (tree.makeDirectory path).1 = tree :=
                Tree.makeDirectory_unchanged_of_error
                  (congrArg Prod.snd outcome)
              left
              simpa [makeDirectory, outcome] using same
          | ok made =>
              by_cases isRoot : (Path.components path).isEmpty
              · have same : tree = after := by
                  simpa [Tree.makeDirectory, List.isEmpty_iff.mp isRoot] using
                    congrArg Prod.fst outcome
                subst same
                left
                simp [makeDirectory, outcome, isRoot]
              · right
                exact ⟨after, made, outcome,
                  by simp [makeDirectory, outcome, isRoot]⟩

/-- Creating a file changes nothing, or it succeeds and is logged. -/
theorem createFile_cases (catalog : Catalog) (path : String) :
    (catalog.createFile path).1 = catalog ∨
      catalog.Logs (.createFile path) (catalog.createFile path) := by
  obtain ⟨tree, log, running⟩ := catalog
  cases running with
  | false => exact .inl rfl
  | true =>
      cases outcome : tree.createFile path with
      | mk after answer =>
          cases answer with
          | error cause =>
              have same : (tree.createFile path).1 = tree :=
                Tree.createFile_unchanged_of_error (congrArg Prod.snd outcome)
              left
              simpa [createFile, outcome] using same
          | ok added =>
              cases added with
              | false =>
                  have same : (tree.createFile path).1 = tree :=
                    Tree.createFile_unchanged_of_false
                      (congrArg Prod.snd outcome)
                  left
                  simpa [createFile, outcome] using same
              | true =>
                  right
                  exact ⟨after, true, outcome, by simp [createFile, outcome]⟩

/-- A mutation changes nothing, or it succeeds on the tree and is logged. -/
theorem mutate_cases (catalog : Catalog) (operation : Operation) :
    (catalog.mutate operation).1 = catalog ∨
      catalog.Logs operation (catalog.mutate operation) := by
  cases operation with
  | makeDirectory path => exact makeDirectory_cases catalog path
  | createFile path => exact createFile_cases catalog path

/-- A call that is refused, or that fails, changes nothing. -/
theorem call_unchanged
    {catalog : Catalog}
    {call : Call}
    (refused : (catalog.call call).2 ≠ .ok true) :
    (catalog.call call).1 = catalog := by
  cases call with
  | mutate operation =>
      rcases mutate_cases catalog operation with
        same | ⟨tree, made, applied, logged⟩
      · exact same
      · exact absurd (congrArg Prod.snd logged) refused
  | stop => exact absurd rfl refused

/-- A call raises the transaction id applied by one at most. -/
theorem appliedTxid_call_le (catalog : Catalog) (call : Call) :
    (catalog.call call).1.appliedTxid ≤ catalog.appliedTxid + 1 := by
  cases call with
  | mutate operation =>
      rcases mutate_cases catalog operation with
        same | ⟨tree, made, applied, logged⟩
      · exact Nat.le_succ_of_le (Nat.le_of_eq (congrArg appliedTxid same))
      · rw [Catalog.call, logged]
        exact Word.next_le_succ _
  | stop => exact Nat.le_succ _

/-- A run raises the transaction id applied by one a call at most. -/
theorem appliedTxid_run_le (catalog : Catalog) (calls : List Call) :
    (catalog.run calls).appliedTxid ≤ catalog.appliedTxid + calls.length := by
  induction calls generalizing catalog with
  | nil => exact Nat.le_refl _
  | cons first rest hypothesis =>
      have single := catalog.appliedTxid_call_le first
      have others := hypothesis (catalog.call first).1
      rw [List.length_cons]
      exact Nat.le_trans others (by omega)

/-- The log of a catalog retells its tree: no record has left the active buffer,
the records carry the transaction ids from one on, and applied in order to an
empty tree they all succeed and give the tree. -/
structure Retold (catalog : Catalog) : Prop where
  /-- No segment was written. -/
  unwritten : catalog.log.spans = []
  /-- No record is sealed. -/
  unsealed : catalog.log.sealing = []
  /-- The records carry consecutive transaction ids. -/
  numbered : catalog.log.active.map Record.txid =
    List.range' 1 catalog.appliedTxid
  /-- The records replay to the tree. -/
  replays : Tree.root.applyAll (catalog.log.active.map Record.operation) =
    .ok catalog.tree

/-- The log of an empty catalog retells its empty tree. -/
theorem retold_new (directory : Location) (segmentSize : Nat) :
    (new (.ofSpans directory segmentSize [])).Retold :=
  ⟨rfl, rfl, rfl, rfl⟩

/-- A call keeps the log in step with the tree, as long as there is a next
transaction id. -/
theorem Retold.call
    {catalog : Catalog}
    (retold : catalog.Retold)
    (room : catalog.appliedTxid < Word.max)
    (call : Call) :
    (catalog.call call).1.Retold := by
  cases call with
  | stop =>
      exact ⟨retold.unwritten, retold.unsealed, retold.numbered, retold.replays⟩
  | mutate operation =>
      rcases mutate_cases catalog operation with
        same | ⟨tree, made, applied, logged⟩
      · have unchanged : (catalog.call (.mutate operation)).1 = catalog := same
        rw [unchanged]
        exact retold
      · have changed : (catalog.call (.mutate operation)).1 =
            { catalog with
              tree := tree, log := (catalog.log.append operation).1 } :=
          congrArg Prod.fst logged
        rw [changed]
        refine ⟨retold.unwritten, retold.unsealed, ?_, ?_⟩
        · have numbered := retold.numbered
          simp only [appliedTxid, Log.append] at numbered room ⊢
          rw [List.map_append, numbered, Word.next_of_lt room,
            List.range'_1_concat, Nat.add_comm 1]
          rfl
        · simp only [Log.append, List.map_append, List.map_cons, List.map_nil]
          exact Tree.applyAll_append_singleton retold.replays applied

/-- Every run of calls keeps the log in step with the tree. -/
theorem Retold.run
    {catalog : Catalog}
    (retold : catalog.Retold)
    (calls : List Call)
    (room : catalog.appliedTxid + calls.length ≤ Word.max) :
    (catalog.run calls).Retold := by
  induction calls using List.reverseRecOn with
  | nil => exact retold
  | append_singleton calls last hypothesis =>
      rw [List.length_append, List.length_singleton] at room
      have reached := catalog.appliedTxid_run_le calls
      rw [run_append_singleton]
      exact (hypothesis (by omega)).call (by omega) last

/-- Log and tree never drift: after every run of calls on an empty catalog, the
records of the log are numbered from one on up to the applied transaction id,
all of them apply in order to an empty tree and give the live tree, and a call
that fails or is refused changes neither. There are as many calls at most as
transaction ids. -/
theorem run_retells
    (directory : Location)
    (segmentSize : Nat)
    (calls : List Call)
    (words : calls.length ≤ Word.max) :
    let catalog := (new (.ofSpans directory segmentSize [])).run calls
    catalog.log.spans = [] ∧
      Tree.root.applyAll (catalog.log.buffered.map Record.operation) =
        .ok catalog.tree ∧
      catalog.log.buffered.map Record.txid = List.range' 1 catalog.appliedTxid ∧
      catalog.appliedTxid = catalog.log.buffered.length ∧
      ∀ call, (catalog.call call).2 ≠ .ok true →
      (catalog.call call).1 = catalog := by
  intro catalog
  have room : (new (.ofSpans directory segmentSize [])).appliedTxid +
      calls.length ≤ Word.max :=
    (Nat.zero_add _).symm ▸ words
  have retold : catalog.Retold :=
    (retold_new directory segmentSize).run calls room
  have isBuffered : catalog.log.buffered = catalog.log.active := by
    simp [Log.buffered, retold.unsealed]
  rw [isBuffered]
  refine ⟨retold.unwritten, retold.replays, retold.numbered, ?_,
    fun _ => call_unchanged⟩
  have lengths := congrArg List.length retold.numbered
  simpa using lengths.symm

/-- Calls that succeed, that find the name taken, that fail, and that come too
late. -/
def mixedCalls : List Call :=
  [.mutate (.makeDirectory "/a"), .mutate (.createFile "/a/b"),
    .mutate (.createFile "/a/b"), .mutate (.makeDirectory "/a/b/c"),
    .mutate (.makeDirectory "/"), .stop, .mutate (.makeDirectory "/d")]

/-- Two of them are logged. -/
theorem run_retells_mixed :
    let catalog := (new (.ofSpans ["edits"] 0 [])).run mixedCalls
    catalog.appliedTxid = 2 ∧
      Tree.root.applyAll (catalog.log.buffered.map Record.operation) =
        .ok catalog.tree ∧
      catalog.log.buffered.map Record.txid = [1, 2] ∧
      ∀ call, (catalog.call call).2 ≠ .ok true →
      (catalog.call call).1 = catalog := by
  intro catalog
  have applied : catalog.appliedTxid = 2 := by decide +kernel
  obtain ⟨-, replays, numbered, -, unchanged⟩ :=
    run_retells ["edits"] 0 mixedCalls (by decide)
  exact ⟨applied, replays, applied ▸ numbered, unchanged⟩

end Catalog
end NameService
