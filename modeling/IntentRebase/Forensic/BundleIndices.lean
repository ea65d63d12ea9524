import IntentRebase.Forensic.BundleRepository

/-! The indices of the repository of bundles in memory: whatever is created and updated, each bundle
is listed once, under its own keys, and a terminal status stays. -/

namespace IntentRebase

open Kit

namespace InMemoryBundleRepository

/-- A call that writes. -/
inductive WriteCall where
  | create (bundle : ForensicBundle)
  | updateStatus (bundleId : Uuid) (newStatus : BundleStatus)
  | updateContents (bundleId : Uuid) (contents : BundleContents)

namespace WriteCall

def apply (s : InMemoryBundleRepository) : WriteCall → BundleAnswer InMemoryBundleRepository
  | .create bundle => s.create bundle
  | .updateStatus bundleId newStatus => s.updateStatus bundleId newStatus
  | .updateContents bundleId contents => s.updateContents bundleId contents

/-- The repository after the call, failed or not. -/
def next (s : InMemoryBundleRepository) (call : WriteCall) : InMemoryBundleRepository :=
  (call.apply s).2

end WriteCall

/-- The repository after the calls. -/
def run (s : InMemoryBundleRepository) (calls : List WriteCall) : InMemoryBundleRepository :=
  calls.foldl WriteCall.next s

end InMemoryBundleRepository

def ForensicBundle.statusKey (bundle : ForensicBundle) : Uuid × BundleStatus :=
  (bundle.tenantId, bundle.status)

def ForensicBundle.purposeKey (bundle : ForensicBundle) : Uuid × BundlePurpose :=
  (bundle.tenantId, bundle.purpose)

namespace InMemoryBundleRepository

/-- Identifiers are keys, and every index lists each bundle once, under its own key. -/
structure Consistent (s : InMemoryBundleRepository) : Prop where
  bundleId : ∀ id bundle, s.bundles.lookup id = some bundle → bundle.bundleId = id
  byTenant : s.byTenant.Exact s.bundles ForensicBundle.tenantId
  byStatus : s.byStatus.Exact s.bundles ForensicBundle.statusKey
  byPurpose : s.byPurpose.Exact s.bundles ForensicBundle.purposeKey

/-- What a call does: nothing, or it stores a new bundle, or it changes one under its identifier,
the status only as a transition allows. -/
inductive Change (s : InMemoryBundleRepository) : InMemoryBundleRepository → Prop
  | failed : Change s s
  | created (bundle : ForensicBundle) : s.bundles.lookup bundle.bundleId = none →
      Change s
        { bundles := s.bundles.insert bundle.bundleId bundle
          byTenant := s.byTenant.push bundle.tenantId bundle.bundleId
          byStatus := s.byStatus.push bundle.statusKey bundle.bundleId
          byPurpose := s.byPurpose.push bundle.purposeKey bundle.bundleId }
  | moved {id : Uuid} {bundle : ForensicBundle} (newStatus : BundleStatus) :
      s.bundles.lookup id = some bundle → bundle.status.canTransitionTo newStatus = true →
      Change s
        { s with
          bundles := s.bundles.insert id { bundle with status := newStatus }
          byStatus := s.byStatus.move bundle.statusKey (bundle.tenantId, newStatus) id }
  | filled {id : Uuid} {bundle : ForensicBundle} (contents : BundleContents) :
      s.bundles.lookup id = some bundle →
      Change s { s with bundles := s.bundles.insert id { bundle with contents } }

variable {s s' : InMemoryBundleRepository}

theorem change_next (s : InMemoryBundleRepository) (call : WriteCall) : s.Change (call.next s) := by
  cases call with
  | create bundle =>
    rw [WriteCall.next, WriteCall.apply, create]
    cases hlookup : s.bundles.lookup bundle.bundleId with
    | some _ => exact .failed
    | none => exact .created bundle hlookup
  | updateStatus id newStatus =>
    rw [WriteCall.next, WriteCall.apply, updateStatus]
    cases hlookup : s.bundles.lookup id with
    | none => exact .failed
    | some bundle =>
      cases hallowed : bundle.status.canTransitionTo newStatus with
      | false =>
        simp only [hallowed, Bool.not_false, if_true]
        exact .failed
      | true =>
        simp only [hallowed, Bool.not_true, Bool.false_eq_true, if_false]
        exact .moved newStatus hlookup hallowed
  | updateContents id contents =>
    rw [WriteCall.next, WriteCall.apply, updateContents]
    cases hlookup : s.bundles.lookup id with
    | none => exact .failed
    | some bundle => exact .filled contents hlookup

theorem Consistent.new : InMemoryBundleRepository.new.Consistent where
  bundleId _ _ h := by cases h
  byTenant := .empty
  byStatus := .empty
  byPurpose := .empty

theorem Consistent.bundleId_insert (h : s.Consistent) {id : Uuid} {bundle : ForensicBundle}
    (hid : bundle.bundleId = id) (other : Uuid) (found : ForensicBundle)
    (hfound : (s.bundles.insert id bundle).lookup other = some found) :
    found.bundleId = other := by
  rw [lookup_insert_eq] at hfound
  split at hfound
  · next heq =>
    obtain rfl := Option.some.inj hfound
    exact hid.trans heq.symm
  · exact h.bundleId other found hfound

theorem Consistent.change (h : s.Consistent) (hchange : s.Change s') : s'.Consistent := by
  cases hchange with
  | failed => exact h
  | created bundle hfresh =>
    exact {
      bundleId := h.bundleId_insert rfl
      byTenant := h.byTenant.insert bundle hfresh
      byStatus := h.byStatus.insert bundle hfresh
      byPurpose := h.byPurpose.insert bundle hfresh }
  | moved newStatus hlookup _ =>
    exact {
      bundleId := h.bundleId_insert (h.bundleId _ _ hlookup :)
      byTenant := h.byTenant.update hlookup rfl
      byStatus := h.byStatus.move _ hlookup
      byPurpose := h.byPurpose.update hlookup rfl }
  | filled contents hlookup =>
    exact {
      bundleId := h.bundleId_insert (h.bundleId _ _ hlookup :)
      byTenant := h.byTenant.update hlookup rfl
      byStatus := h.byStatus.update hlookup rfl
      byPurpose := h.byPurpose.update hlookup rfl }

/-- A terminal status stays, whatever a call does. -/
theorem Change.keeps_terminal (hchange : s.Change s') {id : Uuid} {bundle : ForensicBundle}
    (hlookup : s.bundles.lookup id = some bundle) (hterminal : bundle.status.isTerminal = true) :
    ∃ bundle', s'.bundles.lookup id = some bundle' ∧ bundle'.status = bundle.status := by
  cases hchange with
  | failed => exact ⟨bundle, hlookup, rfl⟩
  | created other hfresh =>
    have hne : id ≠ other.bundleId := by
      rintro rfl
      cases hfresh.symm.trans hlookup
    exact ⟨bundle, by rw [lookup_insert_eq, if_neg hne, hlookup], rfl⟩
  | @moved other old newStatus hold hallowed =>
    by_cases hid : id = other
    · subst hid
      obtain rfl := Option.some.inj (hlookup.symm.trans hold)
      have hsame := (BundleStatus.canTransitionTo_of_isTerminal hterminal).mp hallowed
      exact ⟨_, by rw [lookup_insert_eq, if_pos rfl], hsame.symm⟩
    · exact ⟨bundle, by rw [lookup_insert_eq, if_neg hid, hlookup], rfl⟩
  | @filled other old contents hold =>
    by_cases hid : id = other
    · subst hid
      obtain rfl := Option.some.inj (hlookup.symm.trans hold)
      exact ⟨{ bundle with contents }, by rw [lookup_insert_eq, if_pos rfl], rfl⟩
    · exact ⟨bundle, by rw [lookup_insert_eq, if_neg hid, hlookup], rfl⟩

theorem Consistent.run (h : s.Consistent) (calls : List WriteCall) : (s.run calls).Consistent := by
  induction calls generalizing s with
  | nil => exact h
  | cons call rest ih => exact ih (h.change (change_next s call))

theorem run_keeps_terminal (calls : List WriteCall) {id : Uuid} {bundle : ForensicBundle}
    (hlookup : s.bundles.lookup id = some bundle) (hterminal : bundle.status.isTerminal = true) :
    ∃ bundle', (s.run calls).bundles.lookup id = some bundle' ∧
      bundle'.status = bundle.status := by
  induction calls generalizing s bundle with
  | nil => exact ⟨bundle, hlookup, rfl⟩
  | cons call rest ih =>
    obtain ⟨bundle', hlookup', hstatus⟩ := (change_next s call).keeps_terminal hlookup hterminal
    obtain ⟨last, hlast, hsame⟩ := ih hlookup' (by rw [hstatus, hterminal])
    exact ⟨last, hlast, hsame.trans hstatus⟩

/-- The stored bundles, in no order. -/
def stored (s : InMemoryBundleRepository) : List ForensicBundle := (pairs s.bundles).map Prod.snd

theorem Consistent.listByTenantAndStatus_perm (h : s.Consistent) (tenantId : Uuid)
    (status : BundleStatus) : (s.listByTenantAndStatus tenantId status).Perm
      (s.stored.filter fun b => b.tenantId = tenantId ∧ b.status = status) := by
  refine (h.byStatus.values_perm (tenantId, status)).trans (.of_eq (List.filter_congr ?_))
  intro b _
  simp [ForensicBundle.statusKey, Prod.ext_iff]

theorem Consistent.listTerminalBundles_perm (h : s.Consistent) (tenantId : Uuid) :
    (s.listTerminalBundles tenantId none).Perm
      (s.stored.filter fun b => b.tenantId = tenantId ∧ b.status.isTerminal) := by
  refine (List.mergeSort_perm _ _).trans (((h.byTenant.values_perm tenantId).filter _).trans ?_)
  rw [List.filter_filter]
  refine .of_eq (List.filter_congr fun b _ => ?_)
  rw [Bool.decide_and, Bool.decide_eq_true, Bool.and_comm]

/-- The terminal bundles of a tenant are those that are ready and those that failed. -/
theorem Consistent.listTerminalBundles_split (h : s.Consistent) (tenantId : Uuid) :
    (s.listTerminalBundles tenantId none).Perm
      (s.listByTenantAndStatus tenantId .ready ++ s.listByTenantAndStatus tenantId .failed) := by
  have hsplit := List.filter_append_perm (fun b : ForensicBundle => b.status = .ready)
    (s.stored.filter fun b => b.tenantId = tenantId ∧ b.status.isTerminal)
  refine (h.listTerminalBundles_perm tenantId).trans (hsplit.symm.trans ?_)
  refine .append ?_ ?_
  · refine (List.Perm.of_eq ?_).trans (h.listByTenantAndStatus_perm tenantId .ready).symm
    rw [List.filter_filter]
    refine List.filter_congr fun b _ => ?_
    cases b.status <;> simp [BundleStatus.isTerminal]
  · refine (List.Perm.of_eq ?_).trans (h.listByTenantAndStatus_perm tenantId .failed).symm
    rw [List.filter_filter]
    refine List.filter_congr fun b _ => ?_
    cases b.status <;> simp [BundleStatus.isTerminal]

/-- After any calls, the indices list each bundle once, under its own keys; the terminal bundles of
a tenant are those that are ready and those that failed; and no further calls change the status of a
terminal bundle. -/
theorem bundle_indices_of_run (calls : List WriteCall) :
    let s := InMemoryBundleRepository.new.run calls
    s.Consistent ∧
      (∀ tenantId, (s.listTerminalBundles tenantId none).Perm
        (s.listByTenantAndStatus tenantId .ready ++ s.listByTenantAndStatus tenantId .failed)) ∧
      ∀ id bundle, s.bundles.lookup id = some bundle → bundle.status.isTerminal = true →
        ∀ later, ∃ bundle', (s.run later).bundles.lookup id = some bundle' ∧
          bundle'.status = bundle.status := by
  intro s
  have hconsistent : s.Consistent := Consistent.new.run calls
  exact ⟨hconsistent, hconsistent.listTerminalBundles_split,
    fun _ _ hlookup hterminal later => run_keeps_terminal later hlookup hterminal⟩

end InMemoryBundleRepository

end IntentRebase
