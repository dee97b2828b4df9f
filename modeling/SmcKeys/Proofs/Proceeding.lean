import SmcKeys.Proofs.Request
import SmcKeys.Proofs.WriteGate

namespace SmcKeys

namespace Operation

theorem bind_assoc (op : Operation α) (f : α → Operation β) (g : β → Operation γ) :
    op >>= f >>= g = op >>= fun a => f a >>= g := by
  induction op with
  | done a => rfl
  | consult key next ih => simp only [consult_bind, ih]
  | retain key info next ih => simp only [retain_bind, ih]
  | count tally next ih => simp only [count_bind, ih]
  | call selector request next ih => simp only [call_bind, ih]
  | note event next ih => simp only [note_bind, ih]

end Operation

def Reading.ofVerdict (key : Code) (info : KeyInfo) : Except Failure Packet → Reading
  | .error failure => ⟨{ key, size := min info.size 32, type := info.type }, .error failure⟩
  | .ok response =>
      ⟨{ key, size := min info.size 32, type := info.type, data := response.data }, .ok ()⟩

namespace Client

def readAfter (config : Config) (key : Code) : Except Failure KeyInfo → Operation Reading
  | .error failure => .done ⟨.empty key, .error failure⟩
  | .ok info => do return .ofVerdict key info (← transact config (readRequest key info))

theorem readInto_eq (config : Config) (key : Code) (buffer : Value) :
    readInto config key buffer = keyInfo config key >>= readAfter config key := by
  apply congrArg (keyInfo config key >>= ·)
  funext found
  cases found with
  | error failure => rfl
  | ok info =>
      apply congrArg (transact config (readRequest key info) >>= ·)
      funext verdict
      cases verdict with
      | error failure => rfl
      | ok response => rfl

def failureOf? : Except Failure α → Option Failure
  | .ok _ => none
  | .error failure => some failure

def Response.failure? : Response → Option Failure
  | .info result => failureOf? result
  | .value result => failureOf? result
  | .reading left => failureOf? left.result
  | .done result => failureOf? result
  | .code result => failureOf? result

@[simp] theorem failureOf?_map (f : α → β) (result : Except Failure α) :
    failureOf? (result.map f) = failureOf? result := by
  cases result with
  | ok a => rfl
  | error failure => rfl

inductive Request.Reads (key : Code) : Request → Prop where
  | read : Reads key (.read key)
  | readText {text : String} (hnamed : Code.named text = .ok key) : Reads key (.readText text)
  | readInto (buffer : Value) : Reads key (.readInto key buffer)

theorem Request.Reads.subject?_eq {key : Code} {request : Request} (h : request.Reads key) :
    request.subject? = some key := by
  cases h with
  | read => rfl
  | readText hnamed => exact Request.subject?_readText_eq_some_iff.mpr hnamed
  | readInto buffer => rfl

/-- What a request does once its question about the key has ended. -/
def Job.proceed (job : Job) (key : Code) (found : Except Failure KeyInfo) : Operation Response :=
  match job.request with
  | .keyInfo _ => .done (.info found)
  | .read _ | .readText _ => do
      let reading ← readAfter job.config key found
      return .value (reading.result.map fun _ => reading.value)
  | .readInto _ _ => do return .reading (← readAfter job.config key found)
  | .write value => do return .done (← writeAfter job.config value found)
  | .keyAt _ => job.operation

theorem Job.operation_eq {job : Job} {key : Code} (h : job.request.subject? = some key) :
    job.operation = keyInfo job.config key >>= job.proceed key := by
  obtain ⟨config, request⟩ := job
  cases request with
  | keyInfo key =>
      cases h
      rfl
  | read key =>
      cases h
      simp only [operation, read, readInto_eq, Operation.bind_assoc]
      rfl
  | readText text =>
      simp only [operation, readText, Request.subject?_readText_eq_some_iff.mp h, read,
        readInto_eq, Operation.bind_assoc]
      rfl
  | readInto key buffer =>
      cases h
      simp only [operation, readInto_eq, Operation.bind_assoc]
      rfl
  | write value =>
      cases h
      simp only [operation, write_eq, Operation.bind_assoc]
      rfl
  | keyAt index => cases h

theorem Job.operation_of_unnamed (config : Config) {text : String} {cause : Malformed}
    (h : Code.named text = .error cause) :
    Job.operation ⟨config, .readText text⟩ = .done (.value (.error (.malformed cause))) := by
  simp only [operation, readText, h]
  rfl

theorem Job.operation_keyAt (config : Config) (index : UInt32) :
    Job.operation ⟨config, .keyAt index⟩ =
      transact config (indexRequest index) >>= fun verdict =>
        .done (.code (verdict.map (·.key))) := by
  simp only [operation, keyAt, Operation.bind_assoc]
  rfl

theorem Job.exists_failed {job : Job} {key : Code} (h : job.request.subject? = some key)
    (failure : Failure) :
    ∃ response, job.proceed key (.error failure) = .done response ∧
      response.failure? = some failure := by
  obtain ⟨config, request⟩ := job
  cases request with
  | keyAt index => cases h
  | _ => exact ⟨_, rfl, rfl⟩

/-- The ways in which a request goes on with an info. -/
inductive Job.Course (job : Job) (key : Code) (info : KeyInfo) : Operation Response → Prop where
  | told (hrequest : job.request = .keyInfo key) : Course job key info (.done (.info (.ok info)))
  | read (hrequest : job.request.Reads key) {finish : Except Failure Packet → Response}
      (hfinish : ∀ verdict, (finish verdict).failure? = failureOf? verdict) :
      Course job key info
        (transact job.config (readRequest key info) >>= fun verdict => .done (finish verdict))
  | write {value : Value} (hrequest : job.request = .write value)
      (hshape : info.toShape = value.toShape) {finish : Except Failure Packet → Response}
      (hfinish : ∀ verdict, (finish verdict).failure? = failureOf? verdict) :
      Course job key info
        (transact job.config (writeRequest value) >>= fun verdict => .done (finish verdict))
  | refuse {value : Value} (hrequest : job.request = .write value)
      (hshape : info.toShape ≠ value.toShape) :
      Course job key info
        (.note (.writeRefused value.key info.toShape value.toShape) <|
          .done (.done (.error (.mismatch value.key info.toShape value.toShape))))

theorem failure?_ofVerdict (key : Code) (info : KeyInfo) (verdict : Except Failure Packet) :
    failureOf? (Reading.ofVerdict key info verdict).result = failureOf? verdict := by
  cases verdict with
  | error failure => rfl
  | ok response => rfl

theorem Job.course_proceed {job : Job} {key : Code} (h : job.request.subject? = some key)
    (info : KeyInfo) : job.Course key info (job.proceed key (.ok info)) := by
  have hfinish := failure?_ofVerdict key info
  obtain ⟨config, request⟩ := job
  cases request with
  | keyInfo key =>
      cases h
      exact .told rfl
  | read key =>
      cases h
      simp only [proceed, readAfter, Operation.bind_assoc]
      exact .read .read fun verdict => by simp [Response.failure?, hfinish]
  | readText text =>
      have hnamed := Request.subject?_readText_eq_some_iff.mp h
      simp only [proceed, readAfter, Operation.bind_assoc]
      exact .read (.readText hnamed) fun verdict => by simp [Response.failure?, hfinish]
  | readInto key buffer =>
      cases h
      simp only [proceed, readAfter, Operation.bind_assoc]
      exact .read (.readInto buffer) hfinish
  | write value =>
      cases h
      simp only [proceed, writeAfter]
      split
      case isTrue hshape =>
        simp only [Operation.bind_assoc]
        exact .write rfl hshape fun verdict => failureOf?_map _ verdict
      case isFalse hshape => exact .refuse rfl hshape
  | keyAt index => cases h

end Client

end SmcKeys
