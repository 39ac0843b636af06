import OpenPool.Worker.Blocks
import OpenPool.Worker.Runs

/-! # Draws on canonical blocks

A job records its two blocks, checks them and draws, in five transactions. Between the check and
the draw another job may record a block that displaces one of the two. -/

namespace OpenPool

open Fallible

/-- A draw that commits stores two blocks that are canonical. -/
def World.drawsOnCanonical (services : Services) (world : World) (action : Action) : Bool :=
  match world.op action with
  | some (.createDrawAndPayouts raffleId closeHeight closeHash randomnessHeight randomnessHash ids
      now) =>
      match createDrawAndPayouts services.prim raffleId closeHeight closeHash randomnessHeight
          randomnessHash ids now world.shared.store.db with
      | .ok (db, _) => db.canonical closeHeight closeHash &&
          db.canonical randomnessHeight randomnessHash
      | .error _ => true
  | _ => true

/-- The blocks that a job has checked, while it may still draw on them. -/
def Worker.checked : Worker → List (UInt64 × Hash32)
  | busy _ (.call _ _) memory => memory.canonical
  | busy _ (.done (.ok .again)) memory => memory.canonical
  | _ => []

/-- The step displaces a block that a job has checked. -/
def World.displacesChecked (world : World) (action : Action) : Bool :=
  match world.op action with
  | some (.recordCanonicalBlock height blockHash _ _) =>
      !world.shared.store.db.canonical height blockHash &&
        world.workers.any fun entry => entry.2.checked.any fun block => height ≤ block.1
  | _ => false

/-- Every block that a job has checked is canonical. -/
def World.Checked (world : World) : Prop :=
  ∀ workerId, ∀ block ∈ (world.worker workerId).checked,
    world.shared.store.db.canonical block.1 block.2 = true

section Steps

variable {services : Services} {world : World} {action : Action}

theorem Worker.checked_subset (job : ClaimedJob) (task : Task Round) (memory : Memory) :
    (Worker.busy job task memory).checked ⊆ memory.canonical := by
  unfold checked
  split
  · rename_i heq
    cases heq
    exact List.Subset.refl _
  · rename_i heq
    cases heq
    exact List.Subset.refl _
  · exact List.nil_subset _

/-- An answer adds a block only if the database holds it as canonical. -/
theorem Request.remember_canonical {request : Request} {workerId : String} {payload : JobPayload}
    {memory : Memory} {choice : Choice} {shared : Shared} {block : UInt64 × Hash32}
    (hmem : block ∈ (request.remember (shared.perform services workerId payload choice request).1
      memory).canonical) :
    block ∈ memory.canonical ∨ ((∃ height blockHash,
      request = .query (.canonicalBlockMatches height blockHash)) ∧
        shared.store.db.canonical block.1 block.2 = true) := by
  unfold Request.remember at hmem
  split at hmem
  · exact .inl hmem
  · rename_i height blockHash hanswer
    have hperform : shared.perform services workerId payload choice
        (.query (.canonicalBlockMatches height blockHash)) = (.ok true, _) :=
      Prod.ext hanswer rfl
    obtain ⟨hmatches, -⟩ := Shared.perform_ok hperform
    rcases List.mem_cons.mp hmem with rfl | hmem
    · exact .inr ⟨⟨height, blockHash, rfl⟩, (canonicalBlockMatches_eq_ok_iff.mp hmatches).2⟩
    · exact .inl hmem
  · exact .inl hmem

/-- A block that a job has checked was checked before, or is checked in this step. -/
theorem World.checked_step {workerId : String} {block : UInt64 × Hash32}
    (hmem : block ∈ ((world.step services action).worker workerId).checked) :
    block ∈ (world.worker workerId).checked ∨
      (world.op action = none ∧ world.shared.store.db.canonical block.1 block.2 = true) := by
  have hwith : ∀ (shared : Shared) {other : String} {worker : Worker},
      block ∈ (((world.withShared shared).withWorker other worker).worker workerId).checked →
      (block ∈ worker.checked → other = workerId → block ∈ (world.worker workerId).checked ∨
        (world.op action = none ∧ world.shared.store.db.canonical block.1 block.2 = true)) →
      block ∈ (world.worker workerId).checked ∨
        (world.op action = none ∧ world.shared.store.db.canonical block.1 block.2 = true) := by
    intro shared other worker hmem hworker
    rw [World.worker_withWorker] at hmem
    split at hmem
    · rename_i hsame
      exact hworker hmem hsame.symm
    · exact .inl hmem
  cases action with
  | api op =>
      simp only [World.step] at hmem
      split at hmem <;> exact .inl hmem
  | schedule other jobIds now =>
      simp only [World.step] at hmem
      split at hmem <;> exact .inl hmem
  | claim other choice =>
      simp only [World.step, World.claim] at hmem
      split at hmem
      · refine hwith _ hmem fun hnew _ => ?_
        exact absurd (Worker.checked_subset _ _ _ hnew) List.not_mem_nil
      · exact .inl hmem
      · exact .inl hmem
  | work other choice =>
      simp only [World.step, World.work] at hmem
      split at hmem
      · rename_i job request next memory hworker
        split at hmem
        · exact .inl hmem
        · refine hwith _ hmem fun hnew hsame => ?_
          subst hsame
          rcases Request.remember_canonical (Worker.checked_subset _ _ _ hnew) with
            hold | ⟨⟨height, blockHash, rfl⟩, hcanonical⟩
          · rw [hworker]
            exact .inl hold
          · refine .inr ⟨?_, hcanonical⟩
            simp only [World.op, hworker]
            split <;> rfl
      · exact .inl hmem
  | finish other choice =>
      simp only [World.step, World.finish] at hmem
      split at hmem
      · rename_i job memory hworker
        refine hwith world.shared hmem fun hnew hsame => ?_
        subst hsame
        rw [hworker]
        exact .inl (Worker.checked_subset _ _ _ hnew)
      · exact hwith _ hmem fun hnew _ => absurd hnew List.not_mem_nil
      · exact hwith _ hmem fun hnew _ => absurd hnew List.not_mem_nil
      · exact .inl hmem
  | crash other =>
      exact hwith world.shared hmem fun hnew _ => absurd hnew List.not_mem_nil
  | rollback payoutId => exact .inl hmem
  | deliver other =>
      simp only [World.step, World.deliver] at hmem
      split at hmem <;> exact .inl hmem
  | pay index =>
      simp only [World.step] at hmem
      split at hmem <;> exact .inl hmem

theorem World.mem_workers {workerId : String} {block : UInt64 × Hash32}
    (hmem : block ∈ (world.worker workerId).checked) :
    ∃ entry ∈ world.workers, block ∈ entry.2.checked := by
  unfold World.worker at hmem
  cases hlookup : world.workers.lookup workerId with
  | none =>
      rw [hlookup] at hmem
      exact absurd hmem List.not_mem_nil
  | some worker =>
      rw [hlookup] at hmem
      obtain ⟨front, back, hworkers, -⟩ := List.lookup_eq_some_iff.mp hlookup
      exact ⟨(workerId, worker), hworkers ▸ by simp, hmem⟩

/-- A block that a job has checked stays canonical unless the step displaces it. -/
theorem World.canonical_step {workerId : String} {block : UInt64 × Hash32}
    (hkept : world.displacesChecked action = false)
    (hmem : block ∈ (world.worker workerId).checked)
    (hcanonical : world.shared.store.db.canonical block.1 block.2 = true) :
    (world.step services action).shared.store.db.canonical block.1 block.2 = true := by
  rw [World.store_step]
  cases hop : world.op action with
  | none => exact hcanonical
  | some op =>
      change (world.shared.store.step services.prim op).db.canonical block.1 block.2 = true
      rcases (world.shared.store.step_queue services.prim op).1 with
        ⟨height, blockHash, previousHash, blockTime, rfl⟩ | hblocks
      · change Database.canonical (commit _ _) _ _ = true
        rcases commit_cases world.shared.store.db
          (recordCanonicalBlock height blockHash previousHash blockTime world.shared.store.db) with
          hsame | ⟨u, hok⟩
        · rw [hsame]
          exact hcanonical
        · refine canonical_kept hok hcanonical fun hlow => ?_
          obtain ⟨entry, hentry, hblock⟩ := World.mem_workers hmem
          by_contra hnew
          have hdisplaced : world.workers.any (fun entry =>
              entry.2.checked.any fun block => height ≤ block.1) = true :=
            List.any_eq_true.mpr ⟨entry, hentry,
              List.any_eq_true.mpr ⟨block, hblock, decide_eq_true hlow⟩⟩
          simp [displacesChecked, hop, hdisplaced, hnew] at hkept
      · unfold Database.canonical
        rw [hblocks]
        exact hcanonical

theorem World.Checked.step (h : world.Checked) (hkept : world.displacesChecked action = false) :
    (world.step services action).Checked := by
  intro workerId block hmem
  rcases World.checked_step hmem with hold | ⟨hop, hcanonical⟩
  · exact World.canonical_step hkept hold (h workerId block hold)
  · rw [World.store_step, hop]
    exact hcanonical

/-- The operation of a draw is a request of a job. -/
theorem World.draw_op {raffleId : RaffleId} {closeHeight randomnessHeight : UInt64}
    {closeHash randomnessHash : Hash32} {ids : DrawIds} {now : ℤ}
    (hop : world.op action = some (.createDrawAndPayouts raffleId closeHeight closeHash
      randomnessHeight randomnessHash ids now)) :
    ∃ workerId job close randomness next memory, world.worker workerId =
        .busy job (.call (.query (.createDrawAndPayouts raffleId close randomness)) next) memory ∧
      close.height = closeHeight ∧ close.hash = closeHash ∧
      randomness.height = randomnessHeight ∧ randomness.hash = randomnessHash := by
  cases action with
  | api op =>
      simp only [World.op] at hop
      split at hop
      · rename_i hapi
        obtain rfl := Option.some.inj hop
        cases hapi
      · cases hop
  | work workerId choice =>
      simp only [World.op] at hop
      split at hop
      · rename_i job statement next memory hworker
        split at hop
        · cases statement with
          | createDrawAndPayouts raffleId close randomness =>
              obtain ⟨rfl, rfl, rfl, rfl, rfl, rfl, rfl⟩ :=
                Op.createDrawAndPayouts.inj (Option.some.inj hop)
              exact ⟨workerId, job, close, randomness, next, memory, hworker, rfl, rfl, rfl, rfl⟩
          | countUnsettled | markPaidOut | enqueueProof | commitSettle =>
              obtain ⟨_, -, heq⟩ := Option.map_eq_some_iff.mp hop
              cases heq
          | _ => cases hop
        · cases hop
      · cases hop
  | claim workerId choice | finish workerId choice | schedule workerId jobIds now =>
      simp only [World.op] at hop
      split at hop <;> first | cases hop | (split at hop <;> cases hop)
  | crash | rollback | deliver | pay => cases hop

/-- A draw is made on two blocks that the job has checked. -/
theorem World.Checked.drawsOnCanonical (h : world.Checked) (hvalid : world.Valid services) :
    world.drawsOnCanonical services action = true := by
  unfold World.drawsOnCanonical
  split
  · rename_i raffleId closeHeight closeHash randomnessHeight randomnessHash ids now hop
    split
    · rename_i db result hdraw
      have hblocks : db.blocks = world.shared.store.db.blocks :=
        (createDrawAndPayouts_enqueues hdraw).1
      obtain ⟨workerId, job, close, randomness, next, memory, hworker, rfl, rfl, rfl, rfl⟩ :=
        World.draw_op hop
      obtain ⟨-, hsafe⟩ := hvalid.workers workerId _ _ _ hworker
      obtain ⟨hclose, hrandomness⟩ := (hsafe.next hvalid.shared).1
      have hchecked := h workerId
      rw [hworker] at hchecked
      unfold Database.canonical at hchecked ⊢
      rw [hblocks, Bool.and_eq_true]
      exact ⟨hchecked _ hclose, hchecked _ hrandomness⟩
    · rfl
  · rfl

end Steps

/-- In every run in which no recording displaces a block between its check and the draw, draws
commit on canonical blocks. -/
theorem draws_on_canonical_blocks (services : Services) (actions : List Action)
    (hkept : StateMachine.Meets (World.step services)
      (fun world action => world.displacesChecked action = false) .start actions) :
    StateMachine.Meets (World.step services)
      (fun world action => world.drawsOnCanonical services action = true) .start actions := by
  refine StateMachine.Meets.of_invariant
    (P := fun world : World => world.Valid services ∧ world.Checked)
    (fun world action hkept h => ⟨(h.1.step action).1, h.2.step hkept⟩)
    (fun world action _ h => h.2.drawsOnCanonical h.1) hkept
    ⟨World.valid_start services, fun _ _ hmem => absurd hmem List.not_mem_nil⟩

theorem draws_on_canonical_blocks_sample :
    StateMachine.Meets (World.step WorldSample.services)
      (fun world action => world.drawsOnCanonical WorldSample.services action = true) .start
      WorldSample.drawn :=
  draws_on_canonical_blocks WorldSample.services WorldSample.drawn (by decide +kernel)

namespace WorldSample

open SampleRun

/-- Another chain from height 10 on. -/
def forked (seconds : ℕ) (id : Uuid) : Choice :=
  { choiceAt seconds id with
    reply := fun
      | .blockAt height => .ok {
          height
          hash := hash (.ofNat ((if 10 ≤ height then 201 else 101) + height.toNat))
          previousHash := hash (.ofNat ((if 11 ≤ height then 200 else 100) + height.toNat))
          time := secondsAfter (10 * height.toNat) }
      | question => reply question }

/-- A second worker takes the job over when its lease has expired, and records a close block of
another chain before the first worker draws. -/
def displaced : List Action := frozen ++
  .claim "worker" (choiceAt 170 (uuid 25)) ::
    List.replicate 17 (.work "worker" (choiceAt 170 (uuid 25))) ++
  .claim "other" (forked 231 (uuid 26)) ::
    List.replicate 14 (.work "other" (forked 231 (uuid 26))) ++
  [.work "worker" (choiceAt 232 (uuid 25))]

end WorldSample

/-- The first worker's draw commits on a displaced close block. -/
theorem draw_on_displaced_block :
    ¬ StateMachine.Meets (World.step WorldSample.services)
      (fun world action => world.drawsOnCanonical WorldSample.services action = true) .start
      WorldSample.displaced := by
  decide +kernel

end OpenPool
