import IntentRebase.Forensic.BundleService
import IntentRebase.Kit.Transition

/-! The records that sequences of creations leave, when calls of the repository and of the store may
fail: after a record is made, nothing marks it as failed. -/

namespace IntentRebase

open Kit

/-- A call to create a bundle, with what it meets. -/
structure CreateBundleCall where
  env : CreationEnvironment
  request : CreateForensicBundleRequest

namespace ForensicBundleService

variable {σ τ : Type} (service : ForensicBundleService σ τ)

/-- The state after a call. -/
def next (s : σ × τ) (call : CreateBundleCall) : σ × τ :=
  (service.createBundle call.env call.request s).2

/-- Every record is ready, with its text in the store, or has failed. -/
def Settled (s : σ × τ) : Prop :=
  ∀ id bundle, service.repo.record s.1 id = some bundle →
    (bundle.status = .ready ∧ ∃ data, service.storage.get s.2 id bundle.tenantId = .ok data) ∨
      bundle.status = .failed

/-- The call leaves every record settled, and none generating if it answers with an error. -/
structure LeavesSettled (s : σ × τ) (call : CreateBundleCall) : Prop where
  settled : service.Settled (service.next s call)
  generating : ∀ e, (service.createBundle call.env call.request s).1 = .error e →
    ∀ id bundle, service.repo.record (service.next s call).1 id = some bundle →
      bundle.status ≠ .generating

/-- The call makes no record, because its request or its collection is refused, its identifier is
recorded or the insertion does not take place; or the insertion and the put meet no failure, and the
update takes place. -/
def StopsOrCompletes (s : σ × τ) (call : CreateBundleCall) : Prop :=
  call.request.timeRange.start > call.request.timeRange.stop ∨
  (∃ e, call.env.collector.collect (some call.request.tenantId) call.request.intentIds
    (call.request.timeRange.start, call.request.timeRange.stop) = .error e) ∨
  (∃ old, service.repo.record s.1 call.env.draws.bundleId = some old) ∨
  (∃ e, call.env.createFault = some (.before e)) ∨
  call.env.createFault = none ∧ call.env.putFault = none ∧
    ∀ e, call.env.updateFault ≠ some (.before e)

variable {service} {s : σ × τ} {call : CreateBundleCall} {bundle : ForensicBundle}
  {bundleJson : String}

/-- Nothing generates in a settled state. -/
theorem Settled.not_generating (h : service.Settled s) {id : Uuid}
    (hrecord : service.repo.record s.1 id = some bundle) : bundle.status ≠ .generating := by
  intro hgenerating
  rcases h id bundle hrecord with ⟨hready, _⟩ | hfailed
  · rw [hgenerating] at hready
    cases hready
  · rw [hgenerating] at hfailed
    cases hfailed

theorem leavesSettled_iff : service.LeavesSettled s call ↔ service.Settled (service.next s call) :=
  ⟨fun h => h.settled, fun h => ⟨h, fun _ _ _ _ hrecord => h.not_generating hrecord⟩⟩

/-- The preparation fails on the request or on the collection only. -/
theorem prepareBundle_error_iff : (∃ e, service.prepareBundle call.env call.request = .error e) ↔
    call.request.timeRange.start > call.request.timeRange.stop ∨
      ∃ e, call.env.collector.collect (some call.request.tenantId) call.request.intentIds
        (call.request.timeRange.start, call.request.timeRange.stop) = .error e := by
  unfold prepareBundle
  split
  · next hrange => exact iff_of_true ⟨_, rfl⟩ (.inl hrange)
  · next hrange =>
    rw [or_iff_right hrange]
    split
    · next e hcollect => exact iff_of_true ⟨_, rfl⟩ ⟨e, hcollect⟩
    · next result hcollect => exact iff_of_false (fun ⟨_, h⟩ => nomatch h) (by simp [hcollect])

theorem prepared (hprepare : service.prepareBundle call.env call.request =
    .ok (bundle, bundleJson)) :
    bundle.bundleId = call.env.draws.bundleId ∧ bundle.status = .generating := by
  obtain ⟨result, _, rfl⟩ := prepareBundle_ok hprepare
  exact ⟨rfl, rfl⟩

/-- A call that makes no record leaves the state as it was. -/
theorem next_of_stop (h : (∃ e, service.prepareBundle call.env call.request = .error e) ∨
    (∃ old, service.repo.record s.1 call.env.draws.bundleId = some old) ∨
    ∃ e, call.env.createFault = some (.before e)) : service.next s call = s := by
  unfold next createBundle
  cases hprepare : service.prepareBundle call.env call.request with
  | error e => rfl
  | ok p =>
    obtain ⟨bundle, bundleJson⟩ := p
    dsimp only
    rcases h with ⟨e, he⟩ | ⟨old, hold⟩ | ⟨e, he⟩
    · rw [hprepare] at he
      cases he
    · rw [← (prepared hprepare).1] at hold
      obtain ⟨e, hcreate⟩ := service.repo.create_old s.1 bundle old hold
      rw [hcreate]
      rcases call.env.createFault with _ | e' | e' <;> rfl
    · rw [he]
      rfl

section Writes

variable {r r' : σ} {t : τ}

/-- With its update, a new record is settled. -/
theorem settled_of_updated (h : service.Settled s)
    (hwrites : Writes service s bundle bundleJson r r' t) : service.Settled (r', t) := by
  intro id b hb
  rw [hwrites.updated, Function.update_apply] at hb
  split at hb
  · next hid =>
    obtain rfl := Option.some.inj hb
    have htenant : (readyBundle service bundle).tenantId = bundle.tenantId :=
      service.repo.kept_tenantId bundle
    refine .inl ⟨rfl, bundleJson, ?_⟩
    rw [htenant, hid]
    exact hwrites.held
  · rcases h id b hb with ⟨hready, data, hdata⟩ | hfailed
    · exact .inl ⟨hready, hwrites.keeps id b.tenantId data hdata⟩
    · exact .inr hfailed

/-- Without its update, a new record still generates. -/
theorem not_settled_of_created (hstatus : bundle.status = .generating)
    (hwrites : Writes service s bundle bundleJson r r' t) (t' : τ) :
    ¬ service.Settled (r, t') := by
  intro h
  have hrecord : service.repo.record r bundle.bundleId = some (service.repo.kept bundle) := by
    rw [hwrites.created, Function.update_self]
  exact h.not_generating hrecord ((service.repo.kept_status bundle).trans hstatus)

/-- The state that a call leaves once its bundle is prepared under a new identifier. -/
theorem next_of_writes
    (hprepare : service.prepareBundle call.env call.request = .ok (bundle, bundleJson))
    (hwrites : Writes service s bundle bundleJson r r' t) :
    (call.env.createFault = none → call.env.putFault = none →
      (∀ e, call.env.updateFault ≠ some (.before e)) → service.next s call = (r', t)) ∧
    ((∀ e, call.env.createFault ≠ some (.before e)) →
      ¬ (call.env.createFault = none ∧ call.env.putFault = none ∧
        ∀ e, call.env.updateFault ≠ some (.before e)) →
      ∃ t', service.next s call = (r, t')) := by
  unfold next createBundle
  rw [hprepare]
  dsimp only
  rw [hwrites.create, hwrites.put]
  refine ⟨fun hcreate hput hupdate => ?_, fun hcreate hstop => ?_⟩
  · rw [hcreate, hput]
    simp only [Fault.meet, hwrites.update]
    rcases hfault : call.env.updateFault with _ | e | e
    · rfl
    · exact absurd hfault (hupdate e)
    · rfl
  · rcases hfault : call.env.createFault with _ | e | e
    · rcases hput : call.env.putFault with _ | e | e
      · simp only [Fault.meet, hwrites.update]
        rcases hupdate : call.env.updateFault with _ | e | e
        · exact absurd ⟨hfault, hput, by simp [hupdate]⟩ hstop
        · exact ⟨_, rfl⟩
        · exact absurd ⟨hfault, hput, by simp [hupdate]⟩ hstop
      · exact ⟨_, rfl⟩
      · exact ⟨_, rfl⟩
    · exact absurd hfault (hcreate e)
    · exact ⟨_, rfl⟩

end Writes

/-- From a settled state, a call leaves one exactly if it makes no record or completes it. -/
theorem settled_next_iff (h : service.Settled s) :
    service.Settled (service.next s call) ↔ service.StopsOrCompletes s call := by
  rw [StopsOrCompletes, ← or_assoc, ← prepareBundle_error_iff]
  by_cases hstop : (∃ e, service.prepareBundle call.env call.request = .error e) ∨
      (∃ old, service.repo.record s.1 call.env.draws.bundleId = some old) ∨
      ∃ e, call.env.createFault = some (.before e)
  · rw [next_of_stop hstop]
    refine iff_of_true h ?_
    rcases hstop with he | hold | he
    · exact .inl he
    · exact .inr (.inl hold)
    · exact .inr (.inr (.inl he))
  · obtain ⟨hprepare, hrest⟩ := not_or.mp hstop
    obtain ⟨hnew, hcreate⟩ := not_or.mp hrest
    rw [or_iff_right hprepare, or_iff_right hnew, or_iff_right hcreate]
    cases hprepared : service.prepareBundle call.env call.request with
    | error e => exact absurd ⟨e, hprepared⟩ hprepare
    | ok p =>
      obtain ⟨bundle, bundleJson⟩ := p
      obtain ⟨hid, hstatus⟩ := prepared hprepared
      have hnone : service.repo.record s.1 bundle.bundleId = none := by
        rw [hid, Option.eq_none_iff_forall_ne_some]
        exact fun old hold => hnew ⟨old, hold⟩
      obtain ⟨r, r', t, hwrites⟩ := exists_writes hprepared hnone
      obtain ⟨hcompletes, hfails⟩ := next_of_writes hprepared hwrites
      by_cases hcomplete : call.env.createFault = none ∧ call.env.putFault = none ∧
          ∀ e, call.env.updateFault ≠ some (.before e)
      · rw [hcompletes hcomplete.1 hcomplete.2.1 hcomplete.2.2]
        exact iff_of_true (settled_of_updated h hwrites) hcomplete
      · obtain ⟨t', hnext⟩ := hfails (fun e he => hcreate ⟨e, he⟩) hcomplete
        rw [hnext]
        exact iff_of_false (not_settled_of_created hstatus hwrites t') hcomplete

/-- In any sequence of creations from a settled state, every call leaves every record settled
exactly if each makes no record or completes it. -/
theorem leavesSettled_run_iff (service : ForensicBundleService σ τ) (hs : service.Settled s)
    (calls : List CreateBundleCall) :
    AllSteps service.next service.LeavesSettled s calls ↔
      AllSteps service.next service.StopsOrCompletes s calls := by
  refine allSteps_iff service.Settled (fun s call h => ?_) (fun s call h hcall => ?_) hs calls
  · rw [leavesSettled_iff, settled_next_iff h]
  · exact (settled_next_iff h).mpr hcall

section Sample

/-- The creation of the bundle of no intent, when the put meets this failure. -/
def sampleCall (putFault : Option (Fault BundleStorageError)) : CreateBundleCall where
  env := { sampleEnvironment [] with putFault := putFault }
  request := sampleRequest

/-- No record is made yet. -/
theorem settled_new (hasher : Hasher) : (inMemory hasher).Settled (.new, .new) := by
  intro id bundle hrecord
  cases hrecord

theorem leavesSettled_run_iff_sample :
    AllSteps (inMemory manifestHasher).next (inMemory manifestHasher).LeavesSettled (.new, .new)
      [sampleCall none, sampleCall none] := by
  refine (leavesSettled_run_iff (inMemory manifestHasher) (settled_new _) _).mpr ⟨?_, ?_, trivial⟩
  · refine .inr (.inr (.inr (.inr ⟨rfl, rfl, fun e he => ?_⟩)))
    cases he
  -- The second call draws the identifier of the first.
  · exact .inr (.inr (.inl ⟨_, rfl⟩))

/-- The store is unreachable, and the record of the bundle stays generating. -/
theorem not_leavesSettled_unreachable :
    ¬ AllSteps (inMemory manifestHasher).next (inMemory manifestHasher).LeavesSettled (.new, .new)
      [sampleCall (some (.before (.storage "unreachable")))] := by
  intro h
  refine h.1.generating (.storage "storage error: unreachable") rfl 1 _ rfl ?_
  rfl

end Sample

end ForensicBundleService

end IntentRebase
