import Yori.Ipc.Server

/-! What is legal fits a frame: the submission of a specification that passes its check, and the answers of the service. -/

namespace Yori
open Parsing ByteString IpcProtocolLimits Wire

variable {spec : JobSpec}

/-- The request that submits a specification, with the devices as they were typed. -/
def JobSpec.submission (spec : JobSpec) (gpuSpec gpuPreferredSpec : Option ByteString) : IpcRequest :=
  { kind := .submit
    version := 4
    submit :=
      { argv := spec.argv
        cwd := spec.cwd
        env := spec.env
        gpuRequest := spec.gpuRequest
        launchProfile := spec.launchProfile
        tensorboardLogdir := spec.tensorboardLogdir
        executable := spec.executable
        envMetadata := spec.envMetadata.map fun metadata => ⟨metadata.source.wire, metadata.pythonVersion⟩
        gpuSpec
        gpuPreferredSpec } }

theorem environment_fits (checked : spec.Checked) :
    AtMost (IpcWriter.counted (fun entry => inTurn [IpcWriter.string entry.1, IpcWriter.string entry.2])
      spec.env.entries) (4 + (JobSpecLimits.maxEnvironmentVariables * 8 + JobSpecLimits.maxEnvironmentBytes)) := by
  refine counted_bounded checked.count checked.environmentTotal fun entry inside => ?_
  obtain ⟨name, value⟩ := checked.variable_writable inside
  have both := AtMost.inTurn (.cons (string_sized name).fits (.cons (string_sized value).fits .nil))
  exact both.mono (by simp only [List.sum_cons, List.sum_nil]; omega)

theorem JobSpec.submission_fits (valid : spec.Valid) {gpuSpec gpuPreferredSpec : Option ByteString}
    (typed : ∀ text, gpuSpec = some text ∨ gpuPreferredSpec = some text → Writable text ∧ text.length ≤ 1024) :
    AtMost (encodeSubmit 4 (spec.submission gpuSpec gpuPreferredSpec).submit) 400000 := by
  obtain ⟨checked, profile⟩ := valid.parts
  have counts : ¬(spec.argv.length > maxItemCount ∨ spec.env.size > maxItemCount) := by
    have few := checked.few.trans (show _ ≤ maxItemCount by decide)
    have names := checked.count.trans (show _ ≤ maxItemCount by decide)
    omega
  have named : ∀ name, spec.launchProfile = some name →
      Writable name ∧ name.length ≤ JobSpecLimits.maxLaunchProfileBytes := by
    intro name found
    obtain ⟨short, clean⟩ := profile name found
    exact writable_of_short short clean (by decide)
  have context := AtMost.inTurn (.cons (optionalString_fits fun _ found => checked.executable_writable found)
    (.cons (envMetadata_fits fun _ found => checked.metadata_writable found) .nil))
  have all : AtMost (encodeSubmit 4 (spec.submission gpuSpec gpuPreferredSpec).submit) _ := AtMost.inTurn
    (.cons (Sized.unrefused counts).fits (.cons (Sized.unrefused fun old => absurd old.1 (by decide)).fits
    (.cons (Sized.unrefused fun old => absurd old.1 (by decide)).fits
    (.cons (Sized.unrefused fun old => absurd old.1 (by decide)).fits
      (.cons (arguments_fit checked.few checked.argv_writable checked.total)
        (.cons (string_fits checked.cwd_writable.1 checked.cwd_writable.2) (.cons (environment_fits checked)
          (.cons (u32_sized spec.gpuRequest.toNat).fits (.cons (optionalString_fits named)
            (.cons (optionalString_fits fun _ found => checked.logdir_writable found) (.cons context
              (.cons (optionalString_fits fun _ found => typed _ (.inl found))
                (.cons (optionalString_fits fun _ found => typed _ (.inr found)) .nil)))))))))))))
  exact all.mono (by decide +kernel)

/-- A specification that passes its check is submitted in one frame, and so is every answer about the queue, the
devices, the logs and single jobs. -/
theorem legal_messages_fit :
    (∀ (spec : JobSpec) (gpuSpec gpuPreferredSpec : Option ByteString), validate spec = .ok () →
      (∀ text, gpuSpec = some text ∨ gpuPreferredSpec = some text →
        text.length ≤ 1024 ∧ containsNul text = false) →
      ∃ payload, encodeRequestPayload (spec.submission gpuSpec gpuPreferredSpec) = some payload) ∧
    ∀ (service : IpcService) (peer : PeerCredentials) (logs : IpcLogsRequest) (jobId : UInt64), service.Supplied →
      ∀ response ∈ [service.handleQueue peer, service.handleGpu, service.handleLogs peer logs,
        service.handleTensorboard peer jobId, service.handleInspect peer jobId],
        ∃ payload, encodeResponsePayload { response with version := 4 } = some payload := by
  constructor
  · intro spec gpuSpec gpuPreferredSpec valid typed
    obtain ⟨size, sized, within⟩ := JobSpec.submission_fits valid fun text found =>
      Wire.writable_of_short (typed text found).1 (typed text found).2 (by decide)
    have supported : ipcVersionSupported 4 = true := by decide
    refine (encodePayload_sized supported sized).mpr ?_
    rw [maxPayloadBytes]
    omega
  · intro service peer logs jobId supplied
    have supported : ipcVersionSupported 4 = true := by decide
    have sent {response : IpcResponse} (sendable : response.Sendable) :
        ∃ payload, encodeResponsePayload response = some payload := by
      obtain ⟨payload, encoded, _⟩ := sendable.sent
      exact ⟨payload, encoded⟩
    have devices : ∃ payload, encodeResponsePayload { service.handleGpu with version := 4 } = some payload := by
      rw [← encodeResponsePayload_paired]
      exact sent (supplied.gpu_sendable supported)
    simp only [List.forall_mem_cons, List.not_mem_nil, false_imp_iff, implies_true, and_true]
    exact ⟨sent (supplied.queue_sendable supported), devices, sent (supplied.logs_sendable logs supported),
      sent (supplied.tensorboard_sendable jobId supported),
      sent (supplied.inspect_sendable jobId supported (by decide))⟩

theorem legal_messages_fit_training :
    (∃ payload, encodeRequestPayload (JobSpec.training.submission (some (ascii "0,1")) none) = some payload) ∧
      ∀ response ∈ [UdsIpcServer.oneListed.service.handleGpu,
        UdsIpcServer.oneListed.service.handleInspect { uid := 1000 } 1], response.error = .none ∧
        ∃ payload, encodeResponsePayload { response with version := 4 } = some payload := by
  constructor
  · refine legal_messages_fit.1 .training (some (ascii "0,1")) none (by decide +kernel) fun text found => ?_
    rcases found with found | none
    · rw [← Option.some.inj found]
      decide
    · cases none
  · have fits := legal_messages_fit.2 _ { uid := 1000 } {} 1 UdsIpcServer.oneListed_supplied.service
    simp only [List.forall_mem_cons, List.not_mem_nil, false_imp_iff, implies_true, and_true] at fits ⊢
    exact ⟨⟨by decide +kernel, fits.2.1⟩, by decide +kernel, fits.2.2.2.2⟩

/-- The writer takes no text with a NUL, and a text of devices is not checked before. -/
theorem nul_devices_not_submitted :
    validate (JobSpec.minimal 1 {}) = .ok () ∧
      encodeRequestPayload ((JobSpec.minimal 1 {}).submission (some [nul]) none) = none := by
  decide +kernel

end Yori
