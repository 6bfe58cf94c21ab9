import VpnGateway.Proofs.Kept

/-!
# What can be asked of a reader

A reader answers operations. All of them are sequences of a few kinds of steps, so a property of
readings that sequences keep holds of every operation if it holds of these steps.

* `Query`: the ways to read one key, under any rule;
* `Operation`, `Operation.run`, `Operation.keys`: what is asked of source and files;
* `Request`, `Request.run`: the same, and the warnings of the reader;
* **`Operation.built`**: every operation has a property that its steps have.
-/

namespace VpnGateway

open Reading Setting

/-! ## Operations -/

/-- The ways to read one key. -/
inductive Query : Type → Type 1
  /-- As a value of a type. -/
  | getter {α : Type} (g : Getter α) : Query α
  /-- As whatever value a rule gives. -/
  | validated (rule : Rule) : Query Value
  /-- As an integer of eight bits. -/
  | byte (min max : UInt8) : Query UInt8
  /-- As it is written, with where it comes from. -/
  | origin : Query (String × Origin)

/-- The reading of a query. -/
def Query.read {α : Type} : Query α → String → Policy → Reading α
  | getter g => g.read
  | validated rule => fun key => Reading.validated key rule
  | byte min max => fun key => Reading.byte key min max
  | origin => rawWithOrigin

/-- What can be asked about the source and the files, with the type of the answer. -/
inductive Operation : Type → Type 1
  /-- The value of a key. -/
  | get {α : Type} (q : Query α) (key : String) (policy : Policy) : Operation α
  /-- Where the secret file of a credential is. -/
  | secretFilePath (key : String) : Operation String
  /-- The bytes of a credential. -/
  | credentialBytes (key : String) (fallback : Option String) : Operation (List UInt8 × Origin)
  /-- Which key of a renamed setting counts. -/
  | detect (a : Alias) : Operation Alias.State
  /-- The value of a renamed setting, and the warning that is due; it is not given. -/
  | resolve {α : Type} (a : Alias) (q : Query α) : Operation (Resolved α)
  /-- The value of a renamed setting, and the warning is given. -/
  | renamed {α : Type} (a : Alias) (q : Query α) : Operation α
  /-- One of the settings. -/
  | setting (item : Item) : Operation item.Value
  | overTls : Operation DnsOverTlsSettings
  | dns : Operation DnsSettings
  | cyberghost : Operation CyberghostSettings
  /-- All settings. -/
  | all : Operation Settings

namespace Operation

variable {α : Type}

/-- The reading of an operation. -/
def run : Operation α → Reading α
  | get q key policy => q.read key policy
  | secretFilePath key => Reading.secretFilePath key
  | credentialBytes key fallback => Reading.credentialBytes key fallback
  | detect a => a.detect
  | resolve a q => a.resolve q.read
  | renamed a q => Reading.renamed a q.read
  | setting item => item.read
  | overTls => DnsOverTlsSettings.read
  | dns => DnsSettings.read
  | cyberghost => CyberghostSettings.read
  | all => Settings.read

/-- The keys that an operation is given. -/
def keys : Operation α → List String
  | get _ key _ | secretFilePath key | credentialBytes key _ => [key]
  | detect a | resolve a _ | renamed a _ => [a.deprecated, a.replacement]
  | setting _ | overTls | dns | cyberghost | all => []

end Operation

/-- What can be asked of a reader: an operation, or its warnings. -/
inductive Request : Type → Type 1
  | ask {α : Type} (op : Operation α) : Request α
  /-- The warnings so far. -/
  | warnings : Request (List Deprecation)
  /-- The warnings so far, which are then forgotten. -/
  | takeWarnings : Request (List Deprecation)

/-- The reading of a request. -/
def Request.run {α : Type} : Request α → Reading α
  | ask op => op.run
  | warnings => fun _ j => (.ok j.warnings, j)
  | takeWarnings => Reading.takeWarnings

/-! ## Properties of operations -/

theorem Query.ofText_read {α : Type} (q : Query α) (key : String) (policy : Policy) :
    OfText key (q.read key policy) := by
  cases q with
  | getter g =>
    rw [read, g.read_eq]
    exact ofText_raw.bind fun _ => .liftExcept _
  | validated rule => exact ofText_validated
  | byte min max => exact ofText_byte
  | origin => exact ⟨policy, Pure.pure, (bind_pure _).symm, fun _ => .pure _⟩

/-- **Every operation has a property that sequences keep and that the steps have.** -/
theorem Operation.built {K : String → Prop} {P : ∀ {α : Type}, Reading α → Prop}
    (h : Built K P) (hwarn : ∀ d, P (warn d)) {α : Type} (op : Operation α)
    (hkeys : ∀ key ∈ op.keys, K key) : P op.run := by
  cases op with
  | get q key policy => exact h.ofText (hkeys key List.mem_cons_self) (q.ofText_read key policy)
  | secretFilePath key => exact h.secretFilePath (hkeys key List.mem_cons_self)
  | credentialBytes key fallback => exact h.credentialBytes (hkeys key List.mem_cons_self) fallback
  | detect a => exact h.detect (hkeys _ (by simp [keys])) (hkeys _ (by simp [keys]))
  | resolve a q =>
    exact h.resolve (hkeys _ (by simp [keys])) (hkeys _ (by simp [keys])) q.ofText_read
  | renamed a q =>
    exact h.renamed hwarn (hkeys _ (by simp [keys])) (hkeys _ (by simp [keys])) q.ofText_read
  | setting item => exact h.item hwarn item
  | overTls => exact DnsOverTlsSettings.kept_read h.kept (h.blockSurveillance hwarn)
  | dns => exact DnsSettings.kept_read h.kept (h.blockSurveillance hwarn)
  | cyberghost => exact CyberghostSettings.kept_read h.kept h.clientKey h.clientCertificate
  | all =>
    exact Settings.kept_read h.kept (h.blockSurveillance hwarn) h.clientKey h.clientCertificate

end VpnGateway
