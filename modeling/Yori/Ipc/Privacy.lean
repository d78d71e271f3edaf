import Yori.Ipc.Service

/-! What a peer can learn about jobs from the responses. Each handler gives the same answer when everything
that is kept from the peer is blanked in the store first. -/

namespace Yori
open List

variable {request : IpcRequest} {jobId : UInt64}

/-- What anyone may see of a job. -/
def StoredJob.outline (record : StoredJob) : StoredJob :=
  { id := record.id
    spec :=
      { ownerUid := record.spec.ownerUid
        ownerGid := record.spec.ownerGid
        gpuRequest := record.spec.gpuRequest
        submitTime := record.spec.submitTime }
    state := record.state
    revision := record.revision
    execution := { exit := record.execution.exit } }

namespace IpcService

variable (service : IpcService) (peer : PeerCredentials)

/-- The value of a variable with a sensitive name is blanked. -/
def blankSecret (name value : ByteString) : ByteString := if service.isSensitiveEnvName name then mask else value

def withoutSecrets (record : StoredJob) : StoredJob :=
  { record with spec := { record.spec with env := record.spec.env.mapValues service.blankSecret } }

/-- A job as the peer may know it. -/
def conceal (record : StoredJob) : StoredJob :=
  if service.permits peer record then service.withoutSecrets record else record.outline

def StateSnapshot.concealed (snapshot : StateSnapshot) : StateSnapshot :=
  { snapshot with jobs := snapshot.jobs.map (service.conceal peer) }

/-- The service over the store as the peer may know it. -/
def concealed : IpcService := { service with load := service.load.map (StateSnapshot.concealed service peer) }

/-- Concealing keeps what the order of the queue and the choice of a view depend on. -/
theorem conceal_keeps (record : StoredJob) :
    (service.conceal peer record).id = record.id ∧ (service.conceal peer record).state = record.state ∧
      (service.conceal peer record).spec.submitTime = record.spec.submitTime ∧
      service.permits peer (service.conceal peer record) = service.permits peer record := by
  by_cases permitted : service.permits peer record = true
  · rw [conceal, if_pos permitted]
    exact ⟨rfl, rfl, rfl, rfl⟩
  · rw [conceal, if_neg permitted]
    exact ⟨rfl, rfl, rfl, rfl⟩

variable {service peer} {kind : IpcRequestKind} {record : StoredJob}

theorem conceal_of_permits (permitted : service.permits peer record = true) :
    service.conceal peer record = service.withoutSecrets record := if_pos permitted

theorem conceal_of_not (stranger : ¬service.permits peer record = true) :
    service.conceal peer record = record.outline := if_neg stranger

theorem findJob_concealed (snapshot : StateSnapshot) :
    findJob (StateSnapshot.concealed service peer snapshot) jobId =
      (findJob snapshot jobId).map (service.conceal peer) := by
  have sameTest : (fun record : StoredJob => decide (record.id = ⟨jobId⟩)) ∘ service.conceal peer =
      fun record => decide (record.id = ⟨jobId⟩) := by
    funext record
    simp only [Function.comp_apply, (conceal_keeps service peer record).1]
  rw [findJob, StateSnapshot.concealed, find?_map, sameTest, findJob]

theorem withSnapshot_concealed {handler blind : StateSnapshot → IpcResponse}
    (same : ∀ snapshot, handler snapshot = blind (StateSnapshot.concealed service peer snapshot)) :
    service.withSnapshot kind handler = (service.concealed peer).withSnapshot kind blind := by
  unfold withSnapshot concealed
  cases service.load with
  | error => rfl
  | ok snapshot => exact same snapshot

/-- A view of one job may use of it what its owner may know. -/
theorem withJob_concealed {handler blind : StateSnapshot → StoredJob → IpcResponse}
    (same : ∀ snapshot record, handler snapshot record =
      blind (StateSnapshot.concealed service peer snapshot) (service.withoutSecrets record)) :
    service.withJob kind peer jobId handler = (service.concealed peer).withJob kind peer jobId blind := by
  refine withSnapshot_concealed fun snapshot => ?_
  rw [findJob_concealed]
  cases findJob snapshot jobId with
  | none => rfl
  | some record =>
    have keeps : (service.concealed peer).permits peer (service.conceal peer record) = service.permits peer record :=
      (conceal_keeps service peer record).2.2.2
    simp only [Option.map_some, keeps]
    by_cases permitted : service.permits peer record = true
    · rw [conceal_of_permits permitted, permitted]
      exact same snapshot record
    · rw [Bool.not_eq_true] at permitted
      rw [permitted]
      rfl

theorem jobSummary_conceal (record : StoredJob) :
    service.jobSummary peer (service.conceal peer record) = service.jobSummary peer record := by
  by_cases permitted : service.permits peer record = true
  · rw [conceal_of_permits permitted]
    rfl
  · have keeps := (conceal_keeps service peer record).2.2.2
    rw [conceal_of_not permitted] at keeps ⊢
    rw [Bool.not_eq_true] at permitted
    rw [permitted] at keeps
    simp only [jobSummary, keeps, permitted]
    rfl

theorem queueEntry_conceal (record : StoredJob) :
    service.queueEntry peer (service.conceal peer record) = service.queueEntry peer record := by
  by_cases permitted : service.permits peer record = true
  · rw [conceal_of_permits permitted]
    rfl
  · rw [conceal_of_not permitted]
    rfl

theorem queuedJobs_concealed (snapshot : StateSnapshot) :
    queuedJobs (StateSnapshot.concealed service peer snapshot) = (queuedJobs snapshot).map (service.conceal peer) := by
  have sameOrder : ∀ a b, queuedBefore a b = queuedBefore (service.conceal peer a) (service.conceal peer b) := by
    intro a b
    obtain ⟨idA, _, timeA, _⟩ := conceal_keeps service peer a
    obtain ⟨idB, _, timeB, _⟩ := conceal_keeps service peer b
    rw [queuedBefore, queuedBefore, idA, idB, timeA, timeB]
  have sameState : (fun record : StoredJob => decide (record.state = .queued)) ∘ service.conceal peer =
      fun record => decide (record.state = .queued) := by
    funext record
    simp only [Function.comp_apply, (conceal_keeps service peer record).2.1]
  rw [queuedJobs, queuedJobs, LowerBound.map_sort queuedBefore sameOrder, StateSnapshot.concealed, filter_map,
    sameState]

theorem handlePs_concealed : service.handlePs peer = (service.concealed peer).handlePs peer := by
  refine withSnapshot_concealed fun snapshot => ?_
  have same : (service.concealed peer).jobSummary peer ∘ service.conceal peer = service.jobSummary peer :=
    funext jobSummary_conceal
  simp only [StateSnapshot.concealed, length_map, ← map_take, map_map, ← same]
  rfl

theorem handleQueue_concealed : service.handleQueue peer = (service.concealed peer).handleQueue peer := by
  refine withSnapshot_concealed fun snapshot => ?_
  have same : (service.concealed peer).queueEntry peer ∘ service.conceal peer = service.queueEntry peer :=
    funext queueEntry_conceal
  simp only [queuedJobs_concealed, length_map, ← map_take, map_map, ← same]
  rfl

theorem handleGpu_concealed : service.handleGpu = (service.concealed peer).handleGpu := by
  have same : (service.concealed peer).gpu = service.gpu := rfl
  rw [handleGpu, handleGpu, same]
  cases service.gpu with
  | none => rfl
  | some => exact withSnapshot_concealed fun snapshot => rfl

theorem validateLogsFollow_concealed (request : IpcLogsFollowRequest) :
    service.validateLogsFollow peer request = (service.concealed peer).validateLogsFollow peer request :=
  withJob_concealed fun _ _ => rfl

/-- The entry of a variable does not depend on a value that is blanked. -/
theorem envEntry_blankSecret {entry : ByteString × ByteString} :
    service.envEntry (entry.1, service.blankSecret entry.1 entry.2) = service.envEntry entry := by
  by_cases sensitive : service.isSensitiveEnvName entry.1 = true
  · simp only [envEntry, sensitive, if_true]
  · simp only [envEntry, blankSecret, if_neg sensitive]

theorem handleInspect_concealed :
    service.handleInspect peer jobId = (service.concealed peer).handleInspect peer jobId := by
  refine withJob_concealed fun snapshot record => ?_
  have sameEnv : (service.withoutSecrets record).spec.env.entries.map service.envEntry =
      record.spec.env.entries.map service.envEntry := by
    show (record.spec.env.entries.map _).map service.envEntry = _
    rw [map_map]
    exact map_congr_left fun entry _ => envEntry_blankSecret
  simp only [← sameEnv]
  rfl

theorem admitCancel_concealed : service.admitCancel peer jobId = (service.concealed peer).admitCancel peer jobId := by
  cases loaded : service.load with
  | error code =>
    have blind : (service.concealed peer).load = .error code := by rw [concealed, loaded]; rfl
    rw [admitCancel, admitCancel, loaded, blind]
  | ok snapshot =>
    have blind : (service.concealed peer).load = .ok (StateSnapshot.concealed service peer snapshot) := by
      rw [concealed, loaded]
      rfl
    rw [admitCancel, admitCancel, loaded, blind]
    simp only [findJob_concealed]
    cases findJob snapshot jobId with
    | none => rfl
    | some record =>
      have state := (conceal_keeps service peer record).2.1
      have keeps : (service.concealed peer).permits peer (service.conceal peer record) = service.permits peer record :=
        (conceal_keeps service peer record).2.2.2
      simp only [Option.map_some, state, keeps]

/-- Without a change to a job, a response depends on what the peer may know. -/
theorem handle_concealed (control other : JobControl) (submits : request.kind ≠ .submit)
    (cancels : request.kind ≠ .cancel) :
    service.handle control peer request = (service.concealed peer).handle other peer request := by
  unfold handle
  cases kind : request.kind with
  | submit => exact absurd kind submits
  | cancel => exact absurd kind cancels
  | ps => exact handlePs_concealed
  | queue => exact handleQueue_concealed
  | gpu => exact handleGpu_concealed
  | logs | tensorboard => exact withJob_concealed fun _ _ => rfl
  | logsFollow => rfl
  | inspect => exact handleInspect_concealed

end IpcService

/-! Pairs of stores that a peer cannot tell apart. -/

/-- The records differ at most in what is kept from strangers. -/
structure StoredJob.AlikeOutside (record other : StoredJob) : Prop where
  id : record.id = other.id
  ownerUid : record.spec.ownerUid = other.spec.ownerUid
  ownerGid : record.spec.ownerGid = other.spec.ownerGid
  gpuRequest : record.spec.gpuRequest = other.spec.gpuRequest
  submitTime : record.spec.submitTime = other.spec.submitTime
  state : record.state = other.state
  revision : record.revision = other.revision
  exit : record.execution.exit = other.execution.exit

/-- Only jobs of the given set may differ, and only in what is kept from strangers. -/
structure StateSnapshot.AgreeOutside (hidden : JobId → Prop) (first second : StateSnapshot) : Prop where
  revision : first.revision = second.revision
  leases : first.leases = second.leases
  jobs : List.Forall₂ (fun record other => record = other ∨ (hidden record.id ∧ record.AlikeOutside other))
    first.jobs second.jobs

/-- The name contains one of the patterns, whatever the case of the letters. -/
def IpcServiceConfig.Secret (config : IpcServiceConfig) (name : ByteString) : Prop :=
  ∃ pattern ∈ config.sensitiveEnvPatterns, toLowerAscii pattern <:+: toLowerAscii name

/-- The records differ at most in the values of environment variables with such names. -/
structure StoredJob.SameButSecrets (config : IpcServiceConfig) (record other : StoredJob) : Prop where
  rest : { other with spec := { other.spec with env := record.spec.env } } = record
  env : List.Forall₂ (fun entry changed => entry.1 = changed.1 ∧ (entry.2 = changed.2 ∨ config.Secret entry.1))
    record.spec.env.entries other.spec.env.entries

structure StateSnapshot.SameButSecrets (config : IpcServiceConfig) (first second : StateSnapshot) : Prop where
  revision : first.revision = second.revision
  leases : first.leases = second.leases
  jobs : List.Forall₂ (StoredJob.SameButSecrets config) first.jobs second.jobs

namespace IpcService

variable {service : IpcService} {peer : PeerCredentials} {record other : StoredJob}

theorem outline_eq (alike : record.AlikeOutside other) : record.outline = other.outline := by
  simp only [StoredJob.outline, alike.id, alike.ownerUid, alike.ownerGid, alike.gpuRequest, alike.submitTime,
    alike.state, alike.revision, alike.exit]

theorem permits_eq_of_owner (owner : record.spec.ownerUid = other.spec.ownerUid) :
    service.permits peer record = service.permits peer other := by
  rw [permits, permits, owner]

/-- A stranger is neither the owner nor an administrator. -/
theorem not_permits (common : service.isAdmin peer = false) (stranger : record.spec.ownerUid ≠ peer.uid) :
    ¬service.permits peer record = true := by
  simp [permits, common, stranger]

theorem conceal_eq_of_alike (alike : record.AlikeOutside other) (stranger : ¬service.permits peer record = true) :
    service.conceal peer record = service.conceal peer other := by
  have also : ¬service.permits peer other = true := by
    rw [← permits_eq_of_owner alike.ownerUid]
    exact stranger
  rw [conceal_of_not stranger, conceal_of_not also, outline_eq alike]

theorem withoutSecrets_eq (same : record.SameButSecrets service.config other) :
    service.withoutSecrets record = service.withoutSecrets other := by
  have env : record.spec.env.mapValues service.blankSecret = other.spec.env.mapValues service.blankSecret := by
    refine SortedMap.mapValues_eq (same.env.imp ?_)
    rintro ⟨name, _⟩ ⟨_, _⟩ ⟨rfl, alike⟩
    refine ⟨rfl, ?_⟩
    rcases alike with rfl | secret
    · rfl
    · have sensitive : service.isSensitiveEnvName name = true := by
        simpa [isSensitiveEnvName, IpcServiceConfig.Secret] using secret
      simp only [blankSecret, if_pos sensitive]
  rw [withoutSecrets, withoutSecrets, env, ← same.rest]

theorem conceal_eq_of_secrets (same : record.SameButSecrets service.config other) :
    service.conceal peer record = service.conceal peer other := by
  have owner : record.spec.ownerUid = other.spec.ownerUid := by rw [← same.rest]
  by_cases permitted : service.permits peer record = true
  · have also := permitted
    rw [permits_eq_of_owner owner] at also
    rw [conceal_of_permits permitted, conceal_of_permits also, withoutSecrets_eq same]
  · have also := permitted
    rw [permits_eq_of_owner owner] at also
    rw [conceal_of_not permitted, conceal_of_not also, StoredJob.outline, StoredJob.outline, ← same.rest]

/-- The service over a stored state. -/
def loading (service : IpcService) (snapshot : StateSnapshot) : IpcService := { service with load := .ok snapshot }

/-- Stores whose jobs look alike when concealed are alike to the peer. -/
theorem concealed_over_eq {first second : StateSnapshot} (revision : first.revision = second.revision)
    (leases : first.leases = second.leases)
    (jobs : Forall₂ (fun record other => service.conceal peer record = service.conceal peer other)
      first.jobs second.jobs) :
    (service.loading first).concealed peer = (service.loading second).concealed peer := by
  have same : first.jobs.map (service.conceal peer) = second.jobs.map (service.conceal peer) := by
    rw [← forall₂_eq_eq_eq, forall₂_map_left_iff, forall₂_map_right_iff]
    exact jobs
  have whole : StateSnapshot.concealed service peer first = StateSnapshot.concealed service peer second := by
    rw [StateSnapshot.concealed, StateSnapshot.concealed, revision, leases, same]
  show ({ service with load := .ok (StateSnapshot.concealed service peer first) } : IpcService) =
    { service with load := .ok (StateSnapshot.concealed service peer second) }
  rw [whole]

/-- Nobody but its owner and administrators gets a cancellation of a job through to the job manager. -/
theorem admitCancel_ok {snapshot : StateSnapshot} {delegated : UInt64}
    (admitted : (service.loading snapshot).admitCancel peer jobId = .ok delegated) :
    delegated = jobId ∧ ∃ record ∈ snapshot.jobs, record.id = ⟨jobId⟩ ∧ service.permits peer record = true := by
  have load : (service.loading snapshot).load = .ok snapshot := rfl
  rw [admitCancel, load] at admitted
  cases found : findJob snapshot jobId with
  | none =>
    simp only [found] at admitted
    cases admitted
  | some record =>
    simp only [found] at admitted
    have member : record ∈ snapshot.jobs := mem_of_find?_eq_some found
    have id : record.id = ⟨jobId⟩ := by simpa using find?_some found
    by_cases permitted : service.permits peer record = true
    · refine ⟨?_, record, member, id, permitted⟩
      split at admitted
      · cases admitted
      · split at admitted
        · cases admitted
        · split at admitted
          · cases admitted
          · exact (Except.ok.inj admitted).symm
    · have denied : (!(service.loading snapshot).permits peer record) = true := by
        rw [Bool.not_eq_true'] 
        exact Bool.eq_false_iff.mpr permitted
      rw [if_pos denied] at admitted
      cases admitted

/-- Responses that depend on what the peer may know. -/
theorem responses_eq {first second : StateSnapshot}
    (blind : (service.loading first).concealed peer = (service.loading second).concealed peer)
    {control other : JobControl} (submits : request.kind ≠ .submit) (cancels : request.kind ≠ .cancel) :
    (service.loading first).handle control peer request = (service.loading second).handle other peer request := by
  have one : (service.loading first).handle control peer request = _ := handle_concealed control other submits cancels
  have two : (service.loading second).handle other peer request = _ := handle_concealed other other submits cancels
  rw [one, two, blind]

/-- Strangers learn nothing that is kept from them, and nobody learns the value of a variable with a sensitive
name. -/
theorem responses_keep_private (service : IpcService) (peer : PeerCredentials) (control other : JobControl)
    (first second : StateSnapshot) :
    (∀ hidden : JobId → Prop, first.AgreeOutside hidden second → service.isAdmin peer = false →
      (∀ record ∈ first.jobs, hidden record.id → record.spec.ownerUid ≠ peer.uid) →
      (∀ request : IpcRequest, request.kind ≠ .submit → (request.kind = .cancel → hidden ⟨request.cancel.jobId⟩) →
        (service.loading first).handle control peer request = (service.loading second).handle other peer request) ∧
      ∀ request : IpcLogsFollowRequest,
        (service.loading first).validateLogsFollow peer request =
          (service.loading second).validateLogsFollow peer request) ∧
    (first.SameButSecrets service.config second →
      (∀ request : IpcRequest, request.kind ≠ .submit → request.kind ≠ .cancel →
        (service.loading first).handle control peer request = (service.loading second).handle other peer request) ∧
      (∀ request : IpcLogsFollowRequest,
        (service.loading first).validateLogsFollow peer request =
          (service.loading second).validateLogsFollow peer request) ∧
      ∀ jobId, (service.loading first).admitCancel peer jobId = (service.loading second).admitCancel peer jobId) := by
  constructor
  · intro _ agree common strangers
    have blind : (service.loading first).concealed peer = (service.loading second).concealed peer := by
      refine concealed_over_eq agree.revision agree.leases ?_
      rw [forall₂_iff_get]
      refine ⟨agree.jobs.length_eq, fun index before behind => ?_⟩
      rcases (forall₂_iff_get.mp agree.jobs).2 index before behind with same | ⟨inside, alike⟩
      · rw [same]
      · exact conceal_eq_of_alike alike (not_permits common (strangers _ (get_mem _ _) inside))
    refine ⟨fun request submits inside => ?_, fun request => ?_⟩
    · by_cases cancels : request.kind = .cancel
      · have same : (service.loading first).admitCancel peer request.cancel.jobId =
            (service.loading second).admitCancel peer request.cancel.jobId := by
          rw [admitCancel_concealed, blind, ← admitCancel_concealed]
        -- A job of the set is not the peer's, so neither store lets the request through.
        cases verdict : (service.loading first).admitCancel peer request.cancel.jobId with
        | error =>
          simp only [handle, cancels, handleCancel, ← same, verdict]
        | ok =>
          obtain ⟨_, record, member, id, permitted⟩ := admitCancel_ok verdict
          have stranger := strangers record member (by rw [id]; exact inside cancels)
          exact absurd permitted (not_permits common stranger)
      · exact responses_eq blind submits cancels
    · rw [validateLogsFollow_concealed, blind, ← validateLogsFollow_concealed]
  · intro same
    have blind : (service.loading first).concealed peer = (service.loading second).concealed peer :=
      concealed_over_eq same.revision same.leases (same.jobs.imp fun _ _ => conceal_eq_of_secrets)
    refine ⟨fun request submits cancels => responses_eq blind submits cancels, fun request => ?_, fun jobId => ?_⟩
    · rw [validateLogsFollow_concealed, blind, ← validateLogsFollow_concealed]
    · rw [admitCancel_concealed, blind, ← admitCancel_concealed]

/-- A queued job of user 1000 with an access token in its environment. -/
def tokenJob (argument token : ByteString) : StoredJob :=
  { id := ⟨1⟩
    spec :=
      { JobSpec.minimal 1 {} with
        argv := [argument]
        env := ⟨[(.ascii "API_TOKEN", token)], List.pairwise_singleton ..⟩ } }

theorem tokenJob_secret (argument token token' : ByteString) :
    (tokenJob argument token).SameButSecrets {} (tokenJob argument token') := by
  have inside : toLowerAscii (.ascii "TOKEN") <:+: toLowerAscii (.ascii "API_TOKEN") := by decide +kernel
  exact ⟨rfl, .cons ⟨rfl, .inr ⟨.ascii "TOKEN", mem_cons_self .., inside⟩⟩ .nil⟩

theorem token_job_kept_private :
    let service : IpcService := { load := .ok {} }
    let control := stoppedControl
    let store (argument token : ByteString) : StateSnapshot := { revision := 1, jobs := [tokenJob argument token] }
    (service.loading (store [1] [2])).handle control { uid := 1001 } { kind := .ps } =
      (service.loading (store [3] [4])).handle control { uid := 1001 } { kind := .ps } ∧
    (service.loading (store [1] [2])).handle control { uid := 1000 } { kind := .inspect, inspect := ⟨1⟩ } =
      (service.loading (store [1] [4])).handle control { uid := 1000 } { kind := .inspect, inspect := ⟨1⟩ } := by
  intro service control store
  have outside : (store [1] [2]).AgreeOutside (fun id => id = ⟨1⟩) (store [3] [4]) :=
    ⟨rfl, rfl, .cons (.inr ⟨rfl, rfl, rfl, rfl, rfl, rfl, rfl, rfl, rfl⟩) .nil⟩
  have secrets : (store [1] [2]).SameButSecrets {} (store [1] [4]) := ⟨rfl, rfl, .cons (tokenJob_secret ..) .nil⟩
  have owners : ∀ record ∈ (store [1] [2]).jobs, record.id = ⟨1⟩ → record.spec.ownerUid ≠ 1001 := by
    intro _ member _
    rw [mem_singleton.mp member]
    decide
  have stranger := (responses_keep_private service { uid := 1001 } control control (store [1] [2]) (store [3] [4])).1
    (fun id => id = ⟨1⟩) outside rfl owners
  have owner := (responses_keep_private service { uid := 1000 } control control
    (store [1] [2]) (store [1] [4])).2 secrets
  exact ⟨stranger.1 { kind := .ps } (by decide) (by decide),
    owner.1 { kind := .inspect, inspect := ⟨1⟩ } (by decide) (by decide)⟩

end IpcService

end Yori
