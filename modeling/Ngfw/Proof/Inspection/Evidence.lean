import Ngfw.Inspection.RequestWorker

/-! # Evidence that counts as clean -/

namespace Ngfw.Inspection
open Lib Domain

section
variable {record : EveRecord}

/-- The flow ID in a record, where it has one; it may be unreadable. -/
def Carries (record : EveRecord) (id : Option Nat) : Prop :=
  record.flowID ≠ [] ∧ record.flowID ≠ "null".toList ∧ parseUint 64 record.flowID = id

theorem carriedFlowID_iff {id : Option Nat} : carriedFlowID record = some id ↔ Carries record id := by
  unfold carriedFlowID Carries
  split_ifs with absent
  · simp only [isNull, List.isEmpty_iff, beq_iff_eq] at absent
    simp only [false_iff]
    tauto
  · simp_all [isNull]

variable [CaseMap]

def Bears (record : EveRecord) : Prop :=
  record.eventType = "alert" ∨ record.eventType = "flow"

/-- The record is about TCP packets of the flow, in either direction. -/
def OnTuple (flow : FlowTuple) (record : EveRecord) : Prop :=
  Text.equalFold record.proto "TCP" = true ∧ ∃ source destination,
    Netip.parseAddr record.srcIP.toList = some source ∧ Netip.parseAddr record.destIP.toList = some destination ∧
    ((source, record.srcPort, destination, record.destPort) =
        (flow.clientIP, flow.clientPort, flow.serverIP, flow.serverPort) ∨
      (source, record.srcPort, destination, record.destPort) =
        (flow.serverIP, flow.serverPort, flow.clientIP, flow.clientPort))

theorem matchingTuple_iff {flow : FlowTuple} : matchingTuple record flow = true ↔ OnTuple flow record := by
  unfold matchingTuple OnTuple
  cases Netip.parseAddr record.srcIP.toList <;> cases Netip.parseAddr record.destIP.toList <;> (simp; try tauto)

structure Genuine (job : WorkerResult) (record : EveRecord) : Prop where
  tuple : OnTuple (syntheticTuple job.flowID) record
  capture : record.pcapFilename = "" ∨ record.pcapFilename = job.pcapPath

def ClosesFlow (record : EveRecord) : Prop :=
  record.eventType = "flow" ∧ ∃ flow, record.flow = some flow ∧ Text.equalFold flow.state "closed" = true

def Observes (record : EveRecord) (before after : Option Nat) : Prop :=
  carriedFlowID record = none ∧ after = before ∨
    ∃ value, carriedFlowID record = some (some value) ∧ (before = none ∨ before = some value) ∧
      after = some value

/-- A line is UTF-8, and as JSON a record with an event type. -/
def Reads (line : List UInt8) (record : EveRecord) : Prop :=
  ∃ text, Utf8.decode line = some text ∧ unmarshalRecord text = some record ∧ record.eventType ≠ ""

theorem lineRecord_iff {line : List UInt8} : lineRecord line = some record ↔ Reads line record := by
  simp [lineRecord, Reads, Option.filter_eq_some_iff, Option.bind_eq_some_iff, ← exists_and_right, and_assoc]

theorem Reads.unique {line : List UInt8} {other : EveRecord} (one : Reads line record) (two : Reads line other) :
    record = other :=
  Option.some.inj ((lineRecord_iff.mpr one).symm.trans (lineRecord_iff.mpr two))

variable [TimeText]

/-- The alert of a record, with its signature ID, and what is reported of it. -/
structure Reports (record : EveRecord) (alert : EveAlert) (identifier : Nat) (value : RequestAlert) : Prop where
  carried : record.alert = some alert
  signed : parseUint 32 alert.signatureID = some identifier
  nonzero : 0 < identifier
  small : identifier < 2 ^ 32
  detector : value.detector = "suricata"
  signatureID : value.signatureID = Text.decimal identifier
  category : value.category = alert.category
  message : value.message = alert.signature
  action : value.action = alert.action
  timestamp : ∃ layout ∈ [rfc3339Nano, rfc3339, "2006-01-02T15:04:05.000000-0700"],
    TimeText.parse layout (Text.trimSpace record.timestamp) = some value.timestamp
  severity : if alert.severity = [] ∨ alert.severity = "null".toList then value.severity = ""
    else ∃ level, parseUint 8 alert.severity = some level ∧ 1 ≤ level ∧ level ≤ 4 ∧
      value.severity = Text.decimal level

def Lists (record : EveRecord) (value : RequestAlert) : Prop :=
  ∃ alert identifier, Reports record alert identifier value

omit [CaseMap] in
theorem lists_of_normalizeAlert {alert : EveAlert} {value : RequestAlert} (carried : record.alert = some alert)
    (normalized : normalizeAlert record.timestamp alert = some value) : Lists record value := by
  unfold normalizeAlert at normalized
  split at normalized
  · cases normalized
  rename_i identifier signed
  obtain ⟨invalid, normalized⟩ := Option.ite_none_left_eq_some.mp normalized
  obtain ⟨time, parsed⟩ : ∃ time, parseTimestamp record.timestamp = some time := by
    cases parsed : parseTimestamp record.timestamp <;> simp_all
  rw [parsed] at normalized
  have small := (Option.filter_eq_some_iff.mp signed).2
  unfold parseTimestamp at parsed
  dsimp only at parsed
  split_ifs at parsed
  have known := List.exists_of_findSome?_eq_some parsed
  have nonzero : 0 < identifier := Nat.pos_of_ne_zero (not_or.mp invalid).1
  refine ⟨alert, identifier, ?_⟩
  dsimp only at normalized
  split_ifs at normalized with unset
  · cases normalized
    exact ⟨carried, signed, nonzero, by simpa using small, rfl, rfl, rfl, rfl, rfl, known, by simp_all [isNull]⟩
  · split at normalized
    · cases normalized
    rename_i level read
    split_ifs at normalized with outside
    cases normalized
    refine ⟨carried, signed, nonzero, by simpa using small, rfl, rfl, rfl, rfl, rfl, known, ?_⟩
    rw [if_neg (by simpa [isNull] using unset)]
    exact ⟨level, read, by omega, by omega, rfl⟩

omit [CaseMap] [TimeText] in
theorem observes_of_observeFlowID {known observed : Option Nat}
    (read : observeFlowID known record = .ok observed) : Observes record known observed := by
  unfold observeFlowID at read
  split at read
  · rename_i absent
    cases read
    exact .inl ⟨absent, rfl⟩
  · cases read
  · rename_i value carried
    split_ifs at read with differs
    cases read
    refine .inr ⟨value, carried, ?_, rfl⟩
    cases known with
    | none => exact .inl rfl
    | some old =>
      right
      by_contra other
      exact differs ⟨rfl, other⟩

theorem scanEvidence_cases {next : EveScan} (bears : Bears record) (scanned : scanEvidence scan record = .ok next) :
    (record.eventType = "flow" ∧ next.alerts = scan.alerts ∧ next.flowID = scan.flowID ∧
        (next.terminal = true → scan.terminal = true ∨ ClosesFlow record)) ∨
      ∃ value, record.eventType = "alert" ∧ Lists record value ∧ scan.alerts.length < maxEVEAlerts ∧
        next = { scan with alerts := scan.alerts ++ [value] } := by
  unfold scanEvidence at scanned
  split at scanned
  · rename_i isFlow
    left
    split at scanned
    · cases scanned
    · rename_i flow present
      cases scanned
      split_ifs with closed
      · exact ⟨isFlow, rfl, rfl, fun _ => .inr ⟨isFlow, flow, present, closed⟩⟩
      · exact ⟨isFlow, rfl, rfl, .inl⟩
  · rename_i notFlow
    right
    split at scanned
    · cases scanned
    · rename_i alert present
      split_ifs at scanned with full
      split at scanned
      · cases scanned
      · rename_i value normalized
        cases scanned
        exact ⟨value, bears.resolve_right notFlow, lists_of_normalizeAlert present normalized,
          Nat.lt_of_not_le full, rfl⟩

theorem scanRecord_cases {next : EveScan} (scanned : scanRecord job scan record = .ok next) :
    ¬ Bears record ∧ next = scan ∨
    Bears record ∧ Genuine job record ∧ ∃ observed, Observes record scan.flowID observed ∧
      scanEvidence { scan with flowID := observed } record = .ok next := by
  unfold scanRecord at scanned
  split at scanned
  · rename_i other
    cases scanned
    exact .inl ⟨not_or.mpr other, rfl⟩
  · rename_i other
    right
    have bears : Bears record := by
      unfold Bears
      by_contra neither
      exact other (not_or.mp neither)
    split at scanned
    · cases scanned
    · rename_i own
      rw [not_or, not_and_or, not_not, not_not] at own
      split at scanned
      · cases scanned
      · rename_i observed read
        exact ⟨bears, ⟨matchingTuple_iff.mp (by simpa using own.2), own.1⟩, observed,
          observes_of_observeFlowID read, scanned⟩

/-! ## All lines -/

structure Scanned (job : WorkerResult) (records : List EveRecord) (scan : EveScan) : Prop where
  genuine : ∀ record ∈ records, Bears record → Genuine job record
  oneFlow : ∀ record ∈ records, Bears record → carriedFlowID record = none ∨
    ∃ id, carriedFlowID record = some (some id) ∧ scan.flowID = some id
  closed : scan.terminal = true → ∃ record ∈ records, ClosesFlow record
  alerts : List.Forall₂ Lists (records.filter (·.eventType = "alert")) scan.alerts
  few : scan.alerts.length ≤ maxEVEAlerts

variable {job : WorkerResult} {records : List EveRecord} {scan next : EveScan} {record : EveRecord}

theorem Scanned.start (job : WorkerResult) : Scanned job [] {} where
  genuine := by simp
  oneFlow := by simp
  closed := by simp
  alerts := .nil
  few := by simp

section
variable (known : Scanned job records scan)
include known

theorem Scanned.pass (passed : ¬ Bears record) : Scanned job (records ++ [record]) scan where
  genuine := List.forall_mem_append.mpr ⟨known.genuine, by simp [passed]⟩
  oneFlow := List.forall_mem_append.mpr ⟨known.oneFlow, by simp [passed]⟩
  closed := by
    intro terminal
    obtain ⟨other, member, closes⟩ := known.closed terminal
    exact ⟨other, List.mem_append_left _ member, closes⟩
  alerts := by
    have notAlert : record.eventType ≠ "alert" := fun alert => passed (.inl alert)
    rw [List.filter_append, List.filter_singleton]
    simpa [notAlert] using known.alerts
  few := known.few

theorem Scanned.oneFlow_observed {observed : Option Nat}
    (observes : Observes record scan.flowID observed) : ∀ other ∈ records ++ [record], Bears other →
      carriedFlowID other = none ∨ ∃ id, carriedFlowID other = some (some id) ∧ observed = some id := by
  rw [List.forall_mem_append]
  constructor
  · intro other member bears
    rcases known.oneFlow other member bears with absent | ⟨id, carried, same⟩
    · exact .inl absent
    · refine .inr ⟨id, carried, ?_⟩
      rcases observes with ⟨-, kept⟩ | ⟨value, -, before, after⟩
      · rw [kept, same]
      · rw [same] at before
        rcases before with unknown | agrees
        · cases unknown
        · rw [after, agrees]
  · intro other member _
    rw [List.mem_singleton.mp member]
    rcases observes with ⟨absent, -⟩ | ⟨value, carried, -, after⟩
    · exact .inl absent
    · exact .inr ⟨value, carried, after⟩

theorem Scanned.add (bears : Bears record) (genuine : Genuine job record)
    {observed : Option Nat} (observes : Observes record scan.flowID observed)
    (scanned : scanEvidence { scan with flowID := observed } record = .ok next) :
    Scanned job (records ++ [record]) next := by
  have genuineAll : ∀ other ∈ records ++ [record], Bears other → Genuine job other :=
    List.forall_mem_append.mpr ⟨known.genuine, by simpa using fun _ => genuine⟩
  have oneFlow := known.oneFlow_observed observes
  rcases scanEvidence_cases bears scanned with ⟨isFlow, alerts, flowID, terminal⟩ | ⟨value, isAlert,
    own, room, rfl⟩
  · refine ⟨genuineAll, by rwa [flowID], ?_, ?_, by rw [alerts]; exact known.few⟩
    · intro closed
      rcases terminal closed with before | closes
      · obtain ⟨other, member, closes⟩ := known.closed before
        exact ⟨other, List.mem_append_left _ member, closes⟩
      · exact ⟨record, List.mem_append_right _ List.mem_cons_self, closes⟩
    · rw [alerts, List.filter_append, List.filter_singleton]
      simpa [isFlow] using known.alerts
  · refine ⟨genuineAll, oneFlow, ?_, ?_, ?_⟩
    · intro closed
      obtain ⟨other, member, closes⟩ := known.closed closed
      exact ⟨other, List.mem_append_left _ member, closes⟩
    · rw [List.filter_append, List.filter_singleton]
      exact List.rel_append known.alerts (by simpa [isAlert] using own)
    · rw [List.length_append]
      exact room

theorem Scanned.line {line : List UInt8} (scanned : scanLine job scan line = .ok next) :
    ∃ record, lineRecord line = some record ∧ Scanned job (records ++ [record]) next := by
  unfold scanLine at scanned
  split at scanned
  · cases scanned
  · split at scanned
    · cases scanned
    · rename_i record read
      obtain ⟨after, scannedRecord, rfl⟩ := map_ok.mp scanned
      refine ⟨record, read, ?_⟩
      have added : Scanned job (records ++ [record]) after := by
        rcases scanRecord_cases scannedRecord with ⟨passed, rfl⟩ | ⟨bears, genuine, observed,
          observes, evidence⟩
        · exact known.pass passed
        · exact known.add bears genuine observes evidence
      exact { added with }

theorem Scanned.lines {lines : List (List UInt8)} (scanned : lines.foldlM (scanLine job) scan = .ok next) :
    ∃ more, List.Forall₂ (fun line record => lineRecord line = some record) lines more ∧
      Scanned job (records ++ more) next := by
  induction lines generalizing records scan with
  | nil =>
    cases scanned
    exact ⟨[], .nil, by simpa using known⟩
  | cons line rest ih =>
    rw [List.foldlM_cons] at scanned
    obtain ⟨middle, scannedLine, scannedRest⟩ := bind_ok.mp scanned
    obtain ⟨record, read, knownNext⟩ := known.line scannedLine
    obtain ⟨more, reads, knownAll⟩ := ih knownNext scannedRest
    exact ⟨record :: more, .cons read reads, by simpa using knownAll⟩

end

/-! ## Completed results -/

def eveLines (eve : List UInt8) : List (List UInt8) :=
  (completeLines eve).map dropLineEnd

structure Evidence (job : WorkerResult) (records : List EveRecord) (alerts : List RequestAlert) : Prop where
  genuine : ∀ record ∈ records, Bears record → Genuine job record
  oneFlow : ∃ id, ∀ record ∈ records, Bears record → ∀ own, Carries record own → own = some id
  closed : ∃ record ∈ records, ClosesFlow record
  listed : List.Forall₂ Lists (records.filter (·.eventType = "alert")) alerts
  few : alerts.length ≤ 128

theorem Scanned.evidence (known : Scanned job records scan) (closed : scan.terminal) :
    Evidence job records scan.alerts where
  genuine := known.genuine
  oneFlow := by
    refine ⟨scan.flowID.getD 0, fun record member bears own carries => ?_⟩
    rw [← carriedFlowID_iff] at carries
    rcases known.oneFlow record member bears with absent | ⟨id, carried, same⟩
    · simp [absent] at carries
    · rw [same, Option.some.inj (carries.symm.trans carried)]
      rfl
  closed := known.closed closed
  listed := known.alerts
  few := known.few

omit [CaseMap] [TimeText] in
theorem scannedLines_eq {eve : List UInt8}
    (fits : ¬ ((completeLines eve).any fun line => line.length > maxEVELineBytes) = true) :
    scannedLines eve = eveLines eve := by
  rw [List.any_eq_true, not_exists] at fits
  rw [scannedLines, eveLines, List.takeWhile_eq_self_iff.mpr]
  intro line member
  have short := fits line
  simp only [member, true_and, gt_iff_lt, decide_eq_true_eq, Nat.not_lt] at short
  simpa using short

theorem evidence_of_completed {rulesetID rulesetHash : String}
    (completed : (normalizeEVE job rulesetID rulesetHash).completed) : ∃ records,
      List.Forall₂ Reads (eveLines job.eve) records ∧
      Evidence job records (normalizeEVE job rulesetID rulesetHash).alerts := by
  unfold normalizeEVE at completed ⊢
  dsimp only at completed ⊢
  split at completed
  · cases completed
  · rename_i valid
    rw [if_neg valid]
    split at completed
    · cases completed
    · rename_i scan scanned
      split at completed
      · cases completed
      · rename_i fits
        split at completed
        · cases completed
        · rename_i terminal
          obtain ⟨records, reads, known⟩ := (Scanned.start job).lines scanned
          rw [scannedLines_eq fits] at reads
          rw [if_neg fits, if_neg terminal]
          exact ⟨records, reads.imp fun _ _ => lineRecord_iff.mp, known.evidence (by simpa using terminal)⟩

/-! ## Changed evidence -/

def Foreign (job : WorkerResult) (record : EveRecord) : Prop :=
  Bears record ∧ (¬OnTuple (syntheticTuple job.flowID) record ∨
    ∃ line ∈ eveLines job.eve, ∃ other own id, Reads line other ∧ Bears other ∧ Carries record own ∧
      Carries other id ∧ own ≠ id)

omit [CaseMap] [TimeText] in
theorem eveLines_flatten {lines : List (List UInt8)} (complete : ∀ line ∈ lines, IsLine line) (rest : List UInt8) :
    eveLines (lines.flatten ++ rest) = lines.map dropLineEnd ++ eveLines rest := by
  rw [eveLines, completeLines_flatten complete, List.map_append]
  rfl

theorem foreign_not_completed {before : List (List UInt8)} {after inserted : List UInt8}
    (complete : ∀ line ∈ before, IsLine line) (isLine : IsLine inserted) (split : job.eve = before.flatten ++ after)
    (read : Reads (dropLineEnd inserted) record) (foreign : Foreign job record)
    (rulesetID rulesetHash : String) :
    (normalizeEVE { job with eve := before.flatten ++ (inserted ++ after) } rulesetID rulesetHash).completed =
      false := by
  rw [← Bool.not_eq_true]
  intro completed
  obtain ⟨records, reads, evidence⟩ := evidence_of_completed completed
  have lines : eveLines (before.flatten ++ (inserted ++ after)) =
      before.map dropLineEnd ++ dropLineEnd inserted :: eveLines after := by
    rw [eveLines_flatten complete, eveLines, completeLines_append isLine]
    rfl
  rw [lines] at reads
  have member : record ∈ records := by
    obtain ⟨found, inside, own⟩ := forall₂_mem_left reads (List.mem_append_right _ List.mem_cons_self)
    exact read.unique own ▸ inside
  obtain ⟨bears, offTuple | ⟨line, listed, other, own, id, readOther, bearsOther, carried, carriedOther,
    differ⟩⟩ :=
    foreign
  · exact offTuple (evidence.genuine record member bears).tuple
  · have listedToo : line ∈ before.map dropLineEnd ++ dropLineEnd inserted :: eveLines after := by
      rw [split, eveLines_flatten complete] at listed
      rcases List.mem_append.mp listed with early | late
      · exact List.mem_append_left _ early
      · exact List.mem_append_right _ (List.mem_cons_of_mem _ late)
    have memberOther : other ∈ records := by
      obtain ⟨found, inside, ownRead⟩ := forall₂_mem_left reads listedToo
      exact readOther.unique ownRead ▸ inside
    obtain ⟨known, one⟩ := evidence.oneFlow
    exact differ ((one record member bears own carried).trans (one other memberOther bearsOther id carriedOther).symm)

theorem unclosed_not_completed {kept : List (List UInt8)} (sub : kept.Sublist (completeLines job.eve))
    (unclosed : ∀ line ∈ kept, ∀ record, Reads (dropLineEnd line) record → ¬ ClosesFlow record)
    (rulesetID rulesetHash : String) :
    (normalizeEVE { job with eve := kept.flatten } rulesetID rulesetHash).completed = false := by
  rw [← Bool.not_eq_true]
  intro completed
  obtain ⟨records, reads, evidence⟩ := evidence_of_completed completed
  have complete : ∀ line ∈ kept, IsLine line := fun line member => isLine_of_mem_completeLines (sub.subset member)
  have lines : eveLines kept.flatten = kept.map dropLineEnd := by
    have joined := eveLines_flatten complete []
    simpa [eveLines, completeLines, completeLinesFrom] using joined
  rw [lines] at reads
  obtain ⟨record, member, closes⟩ := evidence.closed
  obtain ⟨line, inside, read⟩ := forall₂_mem_right reads member
  obtain ⟨whole, listed, rfl⟩ := List.mem_map.mp inside
  exact unclosed whole listed record read closes

theorem only_genuine_evidence_completes (job : WorkerResult) (rulesetID rulesetHash : String) :
    ((normalizeEVE job rulesetID rulesetHash).completed = true → ∃ records,
      List.Forall₂ Reads (eveLines job.eve) records ∧
      Evidence job records (normalizeEVE job rulesetID rulesetHash).alerts) ∧
    (∀ (before : List (List UInt8)) after inserted record, (∀ line ∈ before, IsLine line) → IsLine inserted →
      job.eve = before.flatten ++ after → Reads (dropLineEnd inserted) record → Foreign job record →
      (normalizeEVE { job with eve := before.flatten ++ (inserted ++ after) } rulesetID rulesetHash).completed =
        false) ∧
    (∀ kept : List (List UInt8), kept.Sublist (completeLines job.eve) →
      (∀ line ∈ kept, ∀ record, Reads (dropLineEnd line) record → ¬ ClosesFlow record) →
      (normalizeEVE { job with eve := kept.flatten } rulesetID rulesetHash).completed = false) := by
  refine ⟨evidence_of_completed, ?_, ?_⟩
  · intro before after inserted record complete isLine split read foreign
    exact foreign_not_completed complete isLine split read foreign rulesetID rulesetHash
  · intro kept sub unclosed
    exact unclosed_not_completed sub unclosed rulesetID rulesetHash

end

section
attribute [local instance] Text.asciiCaseMap

abbrev verbatimTimes : TimeText where
  parse := fun _ value => some value

attribute [local instance] verbatimTimes

def bytesOf (parts : List String) : List UInt8 :=
  parts.flatMap (·.toUTF8.data.toList)

def alertLine (port : String) : List UInt8 :=
  bytesOf ["\x7b\"timestamp\":\"now\",\"event_type\":\"alert\",\"flow_id\":7,\"src_ip\":\"198.18.0.0\",\"src_port\":",
    port, ",\"dest_ip\":\"192.168.0.10\",\"dest_port\":80,\"proto\":\"TCP\",\"alert\":\x7b\"signature_id\":2100498,",
    "\"signature\":\"ATTACK\",\"category\":\"trojan\",\"severity\":1,\"action\":\"allowed\"\x7d\x7d\n"]

def closedLine : List UInt8 :=
  bytesOf ["\x7b\"event_type\":\"flow\",\"flow_id\":7,\"src_ip\":\"192.168.0.10\",\"src_port\":80,",
    "\"dest_ip\":\"198.18.0.0\",\"dest_port\":1025,\"proto\":\"tcp\",\"flow\":\x7b\"state\":\"closed\"\x7d\x7d\r\n"]

def evidenceJob : WorkerResult :=
  ⟨"request", 1, "/run/job.pcap", alertLine "1025" ++ closedLine⟩

def strayRecord : EveRecord where
  timestamp := "now"
  eventType := "alert"
  flowID := ['7']
  srcIP := "198.18.0.0"
  destIP := "192.168.0.10"
  srcPort := 1026
  destPort := 80
  proto := "TCP"
  alert := some ⟨"2100498".toList, "ATTACK", "trojan", "allowed", ['1']⟩

theorem only_genuine_evidence_completes_job :
    (∃ records, List.Forall₂ Reads (eveLines evidenceJob.eve) records ∧
      Evidence evidenceJob records (normalizeEVE evidenceJob "rules" "hash").alerts) ∧
    (normalizeEVE evidenceJob "rules" "hash").alerts =
      [⟨"suricata", "2100498", "trojan", "ATTACK", "allowed", "1", "now"⟩] ∧
    (normalizeEVE { evidenceJob with eve := [alertLine "1025"].flatten ++ (alertLine "1026" ++ closedLine) }
      "rules" "hash").completed = false ∧
    (normalizeEVE { evidenceJob with eve := [alertLine "1025"].flatten } "rules" "hash").completed = false := by
  obtain ⟨clean, inserted, deleted⟩ := only_genuine_evidence_completes evidenceJob "rules" "hash"
  have isLine : IsLine (alertLine "1025") := ⟨(alertLine "1025").dropLast, by decide +kernel, by decide +kernel⟩
  have isLineToo : IsLine (alertLine "1026") := ⟨(alertLine "1026").dropLast, by decide +kernel, by decide +kernel⟩
  have alertOnly : (lineRecord (dropLineEnd (alertLine "1025"))).all (·.eventType ≠ "flow") = true := by
    decide +kernel
  have result : normalizeEVE evidenceJob "rules" "hash" = ⟨"request", .complete, true,
      [⟨"suricata", "2100498", "trojan", "ATTACK", "allowed", "1", "now"⟩], "", "rules", "hash"⟩ := by
    decide +kernel
  rw [result] at clean ⊢
  refine ⟨clean rfl, rfl, ?_, ?_⟩
  · apply inserted [alertLine "1025"] closedLine (alertLine "1026") strayRecord (by simpa using isLine) isLineToo
      (by simp [evidenceJob])
    · exact lineRecord_iff.mp (by decide +kernel)
    · refine ⟨.inl rfl, .inl fun onTuple => ?_⟩
      rw [← matchingTuple_iff] at onTuple
      exact absurd onTuple (by decide +kernel)
  · apply deleted [alertLine "1025"]
    · rw [evidenceJob, completeLines_append isLine]
      exact (List.nil_sublist _).cons_cons _
    · intro line member record read closes
      rw [List.mem_singleton.mp member] at read
      rw [lineRecord_iff.mpr read] at alertOnly
      simp [closes.1] at alertOnly

end

end Ngfw.Inspection
