import Ngfw.Lib.Numeral
import Ngfw.Proof.Inspection.Capture

/-! # The message of a capture -/

namespace Ngfw.Inspection

open Lib Domain

/-! ## The lines of a capture -/

theorem writeValues_ok {requestLine key : String} (values : List String) {fields written : List (String × String)}
    (ok : writeValues requestLine key values fields = .ok written) :
    written = fields ++ values.map fun value => (Http.canonicalHeaderKey key, value) := by
  induction values generalizing fields with
  | nil =>
    cases ok
    exact (List.append_nil _).symm
  | cons value values ih =>
    unfold writeValues at ok
    split_ifs at ok
    rw [ih ok, List.append_assoc]
    rfl

section

variable [CaseMap]

variable {requestLine key s : String} {headers : Header} {fields written : List (String × String)}
  {request : GateHTTPRequest} {payload : SemanticRequest} {c : Char} {limits : RequestGateConfig}

def keptLines (headers : Header) (keys : List String) : List (String × String) :=
  (keys.filter fun key => !excludedHeader key).flatMap fun key =>
    ((headers.fields.lookup key).getD []).map fun value => (Http.canonicalHeaderKey key, value)

theorem writeFields_ok (keys : List String) (ok : writeFields requestLine headers keys fields = .ok written) :
    written = fields ++ keptLines headers keys := by
  unfold keptLines
  induction keys generalizing fields with
  | nil =>
    cases ok
    exact (List.append_nil _).symm
  | cons key keys ih =>
    unfold writeFields at ok
    split_ifs at ok with excluded
    · rw [ih ok]
      simp [excluded]
    · cases values : writeValues requestLine key ((headers.fields.lookup key).getD []) fields with
      | error failure => simp [values] at ok
      | ok middle =>
        rw [values] at ok
        rw [ih ok, writeValues_ok _ values]
        simp [excluded]

theorem excludedHeader_own {name : String}
    (own : name ∈ ["Host", "Content-Length", "Transfer-Encoding", "Trailer", "Connection"]) :
    excludedHeader name = true := by
  have ascii : name.toList.all (fun c => c.toNat < 128) = true := by
    revert own
    simp only [List.mem_cons, List.not_mem_nil, or_false]
    rintro (rfl | rfl | rfl | rfl | rfl) <;> decide
  unfold excludedHeader
  rw [Text.toLower_ascii (by simpa only [List.all_eq_true, decide_eq_true_eq] using ascii)]
  revert own
  simp only [List.mem_cons, List.not_mem_nil, or_false]
  rintro (rfl | rfl | rfl | rfl | rfl) <;> decide

theorem excludedHeader_userAgent : excludedHeader "User-Agent" = false := by
  have ascii : "User-Agent".toList.all (fun c => c.toNat < 128) = true := by decide
  unfold excludedHeader
  rw [Text.toLower_ascii (by simpa only [List.all_eq_true, decide_eq_true_eq] using ascii)]
  decide

theorem mem_sortedKeys : key ∈ sortedKeys headers ↔ key ∈ headers.fields.keys :=
  List.mem_insertionSort _

/-! ## Requests that can be captured -/

def headerLines (headers : Header) : List (String × String) :=
  keptLines headers (sortedKeys headers)

def targetPath (path : String) : String :=
  if path = "" then "/" else path

def requestTarget (path rawQuery : String) : String :=
  if rawQuery ≠ "" then targetPath path ++ "?" ++ rawQuery else targetPath path

def requestLineOf (method path rawQuery : String) : String :=
  method ++ " " ++ requestTarget path rawQuery ++ " HTTP/1.1"

def messageFields (host : String) (headers : Header) (bodyLength : Nat) : List (String × String) :=
  [("Host", host)] ++ headerLines headers ++ [("Content-Length", Text.decimal bodyLength), ("Connection", "close")]

structure Capturable (method host path rawQuery : String) (headers : Header) (bodyLength : Nat) : Prop where
  methodValid : byteCount method ≤ 64 ∧ token method = true
  hostValid : validHost host = true
  targetFits : byteCount (targetPath path) + byteCount rawQuery + 1 ≤ 16384
  pathValid : Text.hasPrefix "/" (targetPath path) = true ∧ singleLine (targetPath path) = true
  queryValid : singleLine rawQuery = true
  targetAscii : ascii (requestTarget path rawQuery) = true
  namesValid : ∀ key ∈ headers.fields.keys, byteCount key ≤ 256 ∧ token key = true
  valuesValid : ∀ line ∈ headerLines headers, singleLine line.2 = true
  headFits : byteCount method + byteCount (requestTarget path rawQuery) + byteCount host +
    ((headerLines headers).map lineBytes).sum + byteCount (Text.decimal bodyLength) + 59 ≤ 65536

omit [CaseMap] in
theorem byteCount_append (s t : String) : byteCount (s ++ t) = byteCount s + byteCount t := by
  simp [byteCount, Text.byteLength]

theorem wireBytes_message (method host path rawQuery : String) (headers : Header) (bodyLength : Nat) :
    wireBytes (requestLineOf method path rawQuery) (messageFields host headers bodyLength) + 2 =
      byteCount method + byteCount (requestTarget path rawQuery) + byteCount host +
        ((headerLines headers).map lineBytes).sum + byteCount (Text.decimal bodyLength) + 59 := by
  have fixed : byteCount " " = 1 ∧ byteCount " HTTP/1.1" = 9 ∧ byteCount "Host" = 4 ∧
      byteCount "Content-Length" = 14 ∧ byteCount "Connection" = 10 ∧ byteCount "close" = 5 := by decide
  simp only [wireBytes, requestLineOf, messageFields, byteCount_append, List.map_append, List.sum_append, List.map_cons,
    List.map_nil, List.sum_cons, List.sum_nil, lineBytes, fixed]
  omega

omit [CaseMap] in
theorem wireBytes_append (requestLine : String) (first second : List (String × String)) :
    wireBytes requestLine (first ++ second) = wireBytes requestLine first + (second.map lineBytes).sum := by
  simp only [wireBytes, List.map_append, List.sum_append]
  omega

omit [CaseMap] in
theorem byteCount_nonneg (s : String) : 0 ≤ byteCount s :=
  Int.natCast_nonneg _

omit [CaseMap] in
theorem lineBytes_sum_nonneg (lines : List (String × String)) : 0 ≤ (lines.map lineBytes).sum := by
  induction lines with
  | nil => rfl
  | cons line lines ih =>
    have name := byteCount_nonneg line.1
    have value := byteCount_nonneg line.2
    rw [List.map_cons, List.sum_cons, lineBytes]
    omega

omit [CaseMap] in
theorem writeValues_succeeds (canonical : Http.canonicalHeaderKey key = key) {values : List String}
    (single : ∀ value ∈ values, singleLine value = true)
    (room : wireBytes requestLine (fields ++ values.map fun value => (Http.canonicalHeaderKey key, value)) ≤ 65536) :
    writeValues requestLine key values fields =
      .ok (fields ++ values.map fun value => (Http.canonicalHeaderKey key, value)) := by
  induction values generalizing fields with
  | nil => simp [writeValues]
  | cons value values ih =>
    have regroup : fields ++ (value :: values).map (fun value => (Http.canonicalHeaderKey key, value)) =
        (fields ++ [(Http.canonicalHeaderKey key, value)]) ++
          values.map fun value => (Http.canonicalHeaderKey key, value) := by
      simp
    rw [regroup] at room ⊢
    have later := lineBytes_sum_nonneg (values.map fun value => (Http.canonicalHeaderKey key, value))
    have fits := room
    rw [wireBytes_append, wireBytes_append] at fits
    simp only [List.map_cons, List.map_nil, List.sum_cons, List.sum_nil, lineBytes, canonical] at fits later
    have written : 0 ≤ wireBytes requestLine fields := by
      have line := byteCount_nonneg requestLine
      have lines := lineBytes_sum_nonneg fields
      unfold wireBytes
      omega
    have name := byteCount_nonneg key
    have small : ¬ (byteCount value > 65536 ∨
        wireBytes requestLine fields + byteCount key + byteCount value + 4 > 65536) := by omega
    rw [writeValues, if_neg (by simp [single value List.mem_cons_self]), if_neg small]
    exact ih (fun other member => single other (List.mem_cons_of_mem _ member)) room

theorem writeFields_succeeds {keys : List String} (canonical : ∀ key ∈ keys, Http.canonicalHeaderKey key = key)
    (single : ∀ key ∈ keys, excludedHeader key = false → ∀ value ∈ (headers.fields.lookup key).getD [],
      singleLine value = true)
    (room : wireBytes requestLine (fields ++ keptLines headers keys) ≤ 65536) :
    ∃ written, writeFields requestLine headers keys fields = .ok written := by
  unfold keptLines at room
  induction keys generalizing fields with
  | nil => exact ⟨fields, rfl⟩
  | cons key keys ih =>
    have canonicalRest := fun other member => canonical other (List.mem_cons_of_mem key member)
    have singleRest := fun other member => single other (List.mem_cons_of_mem key member)
    rw [writeFields]
    split_ifs with excluded
    · exact ih canonicalRest singleRest (by simpa [excluded] using room)
    · rw [Bool.not_eq_true] at excluded
      rw [List.filter_cons_of_pos (by simp [excluded]), List.flatMap_cons, ← List.append_assoc] at room
      have own := wireBytes_append requestLine
        (fields ++ ((headers.fields.lookup key).getD []).map fun value => (Http.canonicalHeaderKey key, value))
        (keptLines headers keys)
      have later := lineBytes_sum_nonneg (keptLines headers keys)
      unfold keptLines at own later
      rw [writeValues_succeeds (canonical key List.mem_cons_self) (single key List.mem_cons_self excluded) (by omega)]
      exact ih canonicalRest singleRest room

theorem mem_headerLines {line : String × String} :
    line ∈ headerLines headers ↔ line ∈ headers.lines ∧ excludedHeader line.1 = false := by
  obtain ⟨name, value⟩ := line
  simp only [headerLines, keptLines, List.mem_flatMap, List.mem_filter, mem_sortedKeys, List.mem_map, Prod.mk.injEq,
    Bool.not_eq_true']
  constructor
  · rintro ⟨key, ⟨member, kept⟩, _, written, named, rfl⟩
    rw [headers.canonical key member] at named
    subst named
    exact ⟨Header.mem_lines_of_getD written, kept⟩
  · rintro ⟨member, kept⟩
    obtain ⟨values, found, listed⟩ := Header.mem_lines.mp member
    have known := Header.mem_keys_of_mem_lines member
    exact ⟨name, ⟨known, kept⟩, value, by simpa [found] using listed, headers.canonical name known, rfl⟩

theorem semanticRequest_eq (request : GateHTTPRequest) :
    semanticRequest request =
      if byteCount request.method > 64 ∨ ¬ token request.method ∨ ¬ validHost request.host ∨
          request.body.length > 4194304 ∨ request.headers.fields.keys.length > 256 then .error .invalidRequest
      else if byteCount (targetPath request.path) + byteCount request.rawQuery + 1 > 16384 then .error .captureLimit
      else if ¬ Text.hasPrefix "/" (targetPath request.path) ∨ ¬ singleLine (targetPath request.path) ∨
          ¬ singleLine request.rawQuery then .error .invalidRequest
      else if ¬ ascii (requestTarget request.path request.rawQuery) then .error .invalidRequest
      else if request.headers.fields.keys.any fun key => byteCount key > 256 || !token key then .error .invalidRequest
      else match writeFields (requestLineOf request.method request.path request.rawQuery) request.headers
          (sortedKeys request.headers) [("Host", request.host)] with
        | .error failure => .error failure
        | .ok fields =>
          let fields := fields ++ [("Content-Length", Text.decimal request.body.length), ("Connection", "close")]
          if wireBytes (requestLineOf request.method request.path request.rawQuery) fields + 2 > 65536 then
            .error .captureLimit
          else .ok ⟨requestLineOf request.method request.path request.rawQuery, fields, request.body⟩ :=
  rfl

omit [CaseMap] in
theorem writeValues_single (values : List String)
    (ok : writeValues requestLine key values fields = .ok written) : ∀ value ∈ values, singleLine value = true := by
  induction values generalizing fields with
  | nil => simp
  | cons value values ih =>
    unfold writeValues at ok
    split_ifs at ok with single
    exact List.forall_mem_cons.mpr ⟨single, ih ok⟩

theorem writeFields_single (keys : List String) (ok : writeFields requestLine headers keys fields = .ok written) :
    ∀ key ∈ keys, excludedHeader key = false → ∀ value ∈ (headers.fields.lookup key).getD [],
      singleLine value = true := by
  induction keys generalizing fields with
  | nil => simp
  | cons key keys ih =>
    unfold writeFields at ok
    split_ifs at ok with excluded
    · exact List.forall_mem_cons.mpr ⟨fun kept => by simp [excluded] at kept, ih ok⟩
    · cases values : writeValues requestLine key ((headers.fields.lookup key).getD []) fields with
      | error failure => simp [values] at ok
      | ok middle =>
        rw [values] at ok
        exact List.forall_mem_cons.mpr ⟨fun _ => writeValues_single _ values, ih ok⟩

theorem semanticRequest_iff {message : SemanticRequest} :
    semanticRequest request = .ok message ↔
      Capturable request.method request.host request.path request.rawQuery request.headers request.body.length ∧
      request.body.length ≤ 4194304 ∧ request.headers.fields.keys.length ≤ 256 ∧
      message = ⟨requestLineOf request.method request.path request.rawQuery,
        messageFields request.host request.headers request.body.length, request.body⟩ := by
  rw [semanticRequest_eq]
  constructor
  · intro ok
    split_ifs at ok with head target origin nonAscii names
    cases written : writeFields (requestLineOf request.method request.path request.rawQuery) request.headers
        (sortedKeys request.headers) [("Host", request.host)] with
    | error failure => simp [written] at ok
    | ok fields =>
      simp only [written] at ok
      split_ifs at ok with overflow
      cases ok
      have single := writeFields_single _ written
      have lines := writeFields_ok _ written
      simp only [not_or, not_lt, not_not, List.any_eq_true, not_exists, not_and, Bool.or_eq_true, decide_eq_true_eq,
        Bool.not_eq_true', Bool.not_eq_false] at head target origin nonAscii names overflow
      obtain ⟨method, methodToken, host, body, keys⟩ := head
      refine ⟨?_, body, keys, by rw [lines]; rfl⟩
      refine ⟨⟨method, methodToken⟩, host, target, ⟨origin.1, origin.2.1⟩, origin.2.2, nonAscii,
        names, ?_, ?_⟩
      · intro line member
        obtain ⟨listed, kept⟩ := mem_headerLines.mp member
        obtain ⟨values, found, inside⟩ := Header.mem_lines.mp listed
        exact single line.1 (mem_sortedKeys.mpr (Header.mem_keys_of_mem_lines listed)) kept line.2
          (by simpa [found] using inside)
      · rw [← wireBytes_message, messageFields]
        rw [lines] at overflow
        exact overflow
  · rintro ⟨capturable, body, keys, rfl⟩
    have single : ∀ key ∈ sortedKeys request.headers, excludedHeader key = false →
        ∀ value ∈ (request.headers.fields.lookup key).getD [], singleLine value = true := by
      intro key known kept value listed
      exact capturable.valuesValid _ (mem_headerLines.mpr ⟨Header.mem_lines_of_getD listed, kept⟩)
    have canonical : ∀ key ∈ sortedKeys request.headers, Http.canonicalHeaderKey key = key := by
      intro key known
      exact request.headers.canonical key (mem_sortedKeys.mp known)
    have ending := lineBytes_sum_nonneg [("Content-Length", Text.decimal request.body.length), ("Connection", "close")]
    have fits := capturable.headFits
    rw [← wireBytes_message] at fits
    have counted := wireBytes_append (requestLineOf request.method request.path request.rawQuery)
      ([("Host", request.host)] ++ headerLines request.headers)
      [("Content-Length", Text.decimal request.body.length), ("Connection", "close")]
    have room : wireBytes (requestLineOf request.method request.path request.rawQuery)
        ([("Host", request.host)] ++ headerLines request.headers) ≤ 65536 := by
      unfold messageFields at fits
      omega
    obtain ⟨fields, written⟩ := writeFields_succeeds canonical single room
    have lines : fields = [("Host", request.host)] ++ headerLines request.headers := writeFields_ok _ written
    subst lines
    have names : ¬ request.headers.fields.keys.any fun key => byteCount key > 256 || !token key := by
      simpa [List.any_eq_true] using capturable.namesValid
    rw [if_neg (by simp [not_or, not_lt, capturable.methodValid, capturable.hostValid, body, keys]),
      if_neg (not_lt.mpr capturable.targetFits),
      if_neg (by simp [capturable.pathValid, capturable.queryValid]),
      if_neg (by simp [capturable.targetAscii]), if_neg names, written]
    exact if_neg (not_lt.mpr fits)

theorem semanticRequest_fields (ok : semanticRequest request = .ok payload) :
    payload.fields = messageFields request.host request.headers request.body.length := by
  obtain ⟨-, -, -, rfl⟩ := semanticRequest_iff.mp ok
  rfl

theorem mem_semanticRequest_fields (ok : semanticRequest request = .ok payload) {line : String × String} :
    line ∈ payload.fields ↔
      line = ("Host", request.host) ∨ line = ("Content-Length", Text.decimal request.body.length) ∨
      line = ("Connection", "close") ∨ line ∈ request.headers.lines ∧ excludedHeader line.1 = false := by
  rw [semanticRequest_fields ok, messageFields, List.mem_append, List.mem_append, mem_headerLines]
  simp only [List.mem_cons, List.not_mem_nil, or_false]
  rw [or_assoc]
  refine or_congr_right ?_
  rw [or_comm, or_assoc]

/-! ## Reading the message back -/

open HttpMessage

omit [CaseMap] in
theorem isTokenChar_small (valid : Http.isTokenChar c) : c.toNat < 128 := by
  have listed : ∀ other ∈ "!#$%&'*+-.^_`|~".toList, other.toNat < 128 := by simp
  simp only [Http.isTokenChar, Bool.or_eq_true, Bool.and_eq_true, decide_eq_true_eq] at valid
  rcases valid with ((lower | upper) | numeric) | other
  · exact Nat.lt_of_le_of_lt (Char.le_def.mp lower.2) (by decide)
  · exact Nat.lt_of_le_of_lt (Char.le_def.mp upper.2) (by decide)
  · exact Nat.lt_of_le_of_lt (Char.le_def.mp numeric.2) (by decide)
  · exact listed c (List.contains_iff_mem.mp other)

omit [CaseMap] in
theorem mem_token (valid : token s) (member : c ∈ s.toList) : Http.isTokenChar c = true := by
  simp only [token, ne_eq, Bool.decide_and, Bool.and_eq_true, decide_eq_true_eq, List.all_eq_true] at valid
  exact valid.2 c member

omit [CaseMap] in
theorem notMem_token {byte : UInt8} (valid : token s) (small : byte.toNat < 128)
    (other : Http.isTokenChar (Char.ofNat byte.toNat) = false) : byte ∉ textBytes s := by
  rw [mem_textBytes small]
  intro member
  rw [mem_token valid member] at other
  cases other

omit [CaseMap] in
theorem notMem_singleLine (single : singleLine s) : carriageReturn ∉ textBytes s := by
  rw [mem_textBytes (by decide)]
  intro member
  simp only [singleLine, List.all_eq_true] at single
  exact absurd (single _ member) (by decide)

omit [CaseMap] in
theorem decimal_ascii (n : Nat) : ∀ c ∈ (Text.decimal n).toList, c.toNat < 128 ∧ c ≠ '\r' := by
  intro c member
  rw [Text.decimal, String.toList_ofList] at member
  have digit := Text.digits_all (Text.digits_toDigits n) c member
  unfold Text.digit at digit
  split_ifs at digit with range
  · refine ⟨Nat.lt_of_le_of_lt (Char.le_def.mp range.2) (by decide), ?_⟩
    rintro rfl
    exact absurd range.1 (by decide)
  · cases digit

theorem excluded_of_contentLength (valid : token key)
    (same : (textBytes key).map lowerByte = textBytes "content-length") : excludedHeader key = true := by
  have small : ∀ c ∈ key.toList, c.toNat < 128 := fun c member => isTokenChar_small (mem_token valid member)
  have lower : Text.toLower key = "content-length" := by
    have chars := congrArg (List.map fun byte => Char.ofNat byte.toNat) same
    rw [char_textBytes (by simp), textBytes_ascii small, List.map_map, List.map_map] at chars
    rw [Text.toLower_ascii small, ← String.ofList_toList (s := "content-length"), ← chars]
    congr 1
    refine List.map_congr_left fun c member => ?_
    rw [Function.comp_apply, Function.comp_apply, ofNat_lowerByte (small c member), Char.ofNat_toNat]
  simp [excludedHeader, lower]

def fieldBytes (line : String × String) : List UInt8 × List UInt8 :=
  (textBytes line.1, textBytes line.2)

section

variable {request : GateHTTPRequest}

variable {message : SemanticRequest} {headers : Header} {method host path rawQuery : String} {bodyLength : Nat}

theorem Capturable.clean (capturable : Capturable method host path rawQuery headers bodyLength) :
    ∀ field ∈ (messageFields host headers bodyLength).map fieldBytes, Clean field := by
  have own : ∀ name ∈ ["Host", "Content-Length", "Connection"],
      colon ∉ textBytes name ∧ carriageReturn ∉ textBytes name := by decide
  intro field member
  obtain ⟨line, listed, rfl⟩ := List.mem_map.mp member
  simp only [messageFields, List.mem_append, List.mem_cons, List.not_mem_nil, or_false] at listed
  rcases listed with (rfl | header) | rfl | rfl
  · have single : singleLine host := by
      have valid := capturable.hostValid
      simp only [validHost, decide_eq_true_eq] at valid
      exact valid.2.2.1
    exact ⟨own _ (.head _), notMem_singleLine single⟩
  · have named := (capturable.namesValid _ (Header.mem_keys_of_mem_lines (mem_headerLines.mp header).1)).2
    exact ⟨⟨notMem_token named (by decide) (by decide), notMem_token named (by decide) (by decide)⟩,
      notMem_singleLine (capturable.valuesValid line header)⟩
  · refine ⟨own _ (.tail _ (.head _)), ?_⟩
    rw [fieldBytes, mem_textBytes (by decide)]
    intro present
    exact (decimal_ascii bodyLength _ present).2 (by decide)
  · exact ⟨own _ (.tail _ (.tail _ (.head _))), by decide⟩

theorem Capturable.contentLength (capturable : Capturable method host path rawQuery headers bodyLength) :
    contentLength ((messageFields host headers bodyLength).map fieldBytes) = some bodyLength := by
  have others : ((headerLines headers).map fieldBytes).find?
      (fun field => decide (field.1.map lowerByte = textBytes "content-length")) = none := by
    rw [List.find?_eq_none]
    intro field member
    obtain ⟨line, header, rfl⟩ := List.mem_map.mp member
    obtain ⟨listed, kept⟩ := mem_headerLines.mp header
    rw [decide_eq_true_eq]
    intro same
    rw [excluded_of_contentLength (capturable.namesValid _ (Header.mem_keys_of_mem_lines listed)).2 same] at kept
    cases kept
  have found : ((messageFields host headers bodyLength).map fieldBytes).find?
      (fun field => decide (field.1.map lowerByte = textBytes "content-length")) =
      some (fieldBytes ("Content-Length", Text.decimal bodyLength)) := by
    rw [messageFields, List.map_append, List.map_append, List.find?_append, List.find?_append, others]
    have host : ((textBytes "Host").map lowerByte = textBytes "content-length") = False := by decide
    have own : ((textBytes "Content-Length").map lowerByte = textBytes "content-length") = True := by decide
    simp [fieldBytes, host, own]
  rw [HttpMessage.contentLength, found]
  simp only [fieldBytes]
  rw [char_textBytes fun c member => (decimal_ascii bodyLength c member).1, Text.decimal, String.toList_ofList,
    Text.digits_toDigits]

omit [CaseMap] in
theorem length_bytes (message : SemanticRequest) :
    (message.bytes.length : Int) = wireBytes message.requestLine message.fields + 2 + message.body.length := by
  have lines : ((message.fields.map fun line => (textBytes line.1).length + (textBytes line.2).length + 4).sum : Nat) =
      (message.fields.map lineBytes).sum := by
    induction message.fields with
    | nil => rfl
    | cons line fields ih =>
      rw [List.map_cons, List.sum_cons, List.map_cons, List.sum_cons, ← ih, lineBytes, byteCount, byteCount,
        length_textBytes, length_textBytes]
      omega
  rw [SemanticRequest.bytes, length_render, List.map_map, wireBytes, byteCount, ← lines, length_textBytes]
  simp only [Function.comp_def]
  omega

theorem length_message (accepted : semanticRequest request = .ok message) :
    message.bytes.length ≤ 65536 + 4194304 := by
  obtain ⟨capturable, body, -, rfl⟩ := semanticRequest_iff.mp accepted
  have length := length_bytes ⟨requestLineOf request.method request.path request.rawQuery,
    messageFields request.host request.headers request.body.length, request.body⟩
  have head := capturable.headFits
  rw [← wireBytes_message] at head
  dsimp only at length
  omega

theorem build_carries (accepted : semanticRequest request = .ok message) (flowID : UInt32) :
    ∃ added packets, build request flowID = .ok (Capture.start.bytes ++ added) ∧ Records added packets ∧
      Exchange flowID 1000 5000 packets ∧ (packets.filter (fromClient flowID)).flatMap payloadOf = message.bytes := by
  have size := conversation_size message.bytes
  have short := length_message accepted
  have begins : Capture.start.bytes.length = 24 := rfl
  have room : Capture.start.bytes.length +
      ((conversation message.bytes).map fun segment => 70 + segment.data.length).sum ≤ maxCaptureBytes := by
    unfold maxCaptureBytes
    omega
  obtain ⟨final, written⟩ : ∃ final, (conversation message.bytes).foldlM (Capture.write flowID) Capture.start =
      .ok final := Capture.writeAll_succeeds conversation_short room
  obtain ⟨added, packets, bytes, records, exchange, payload⟩ := Capture.writeAll_ok written
  refine ⟨added, packets, ?_, records, exchange, payload.trans (conversation_payload _)⟩
  rw [build, accepted]
  simp only [written, Except.map, bytes]

omit [CaseMap] in
theorem mem_targetPath {c : Char} (other : c ≠ '/') (path : String) :
    c ∈ (targetPath path).toList ↔ c ∈ path.toList := by
  unfold targetPath
  split_ifs with empty
  · subst empty
    simp [other]
  · rfl

omit [CaseMap] in
theorem space_mem_requestTarget (path rawQuery : String) :
    ' ' ∈ (requestTarget path rawQuery).toList ↔ ' ' ∈ path.toList ∨ ' ' ∈ rawQuery.toList := by
  have inPath := mem_targetPath (c := ' ') (by decide) path
  unfold requestTarget
  split_ifs with query
  · simp [inPath]
  · rw [not_not] at query
    simp [query, inPath]

omit [CaseMap] in
theorem textBytes_requestLineOf (method path rawQuery : String) :
    textBytes (requestLineOf method path rawQuery) =
      textBytes method ++ space :: (textBytes (requestTarget path rawQuery) ++ space :: version) := by
  have gap : textBytes " " = [space] := by decide
  have ending : textBytes " HTTP/1.1" = space :: version := by decide
  rw [requestLineOf, textBytes_append, textBytes_append, textBytes_append, gap, ending]
  simp

theorem parse_bytes (accepted : semanticRequest request = .ok message) :
    parse message.bytes =
      if ' ' ∈ request.path.toList ∨ ' ' ∈ request.rawQuery.toList then none
      else some
        { method := textBytes request.method
          path := (cut questionMark (textBytes (requestTarget request.path request.rawQuery))).1
          query := (cut questionMark (textBytes (requestTarget request.path request.rawQuery))).2
          fields := message.fields.map fieldBytes
          body := request.body } := by
  obtain ⟨capturable, -, -, rfl⟩ := semanticRequest_iff.mp accepted
  have methodToken := capturable.methodValid.2
  have targetSingle : carriageReturn ∉ textBytes (requestTarget request.path request.rawQuery) := by
    have mark : carriageReturn ∉ textBytes "?" := by decide
    unfold requestTarget
    split_ifs with query
    · simp only [textBytes_append, List.mem_append, not_or]
      exact ⟨⟨notMem_singleLine capturable.pathValid.2, mark⟩, notMem_singleLine capturable.queryValid⟩
    · exact notMem_singleLine capturable.pathValid.2
  have bytes : SemanticRequest.bytes ⟨requestLineOf request.method request.path request.rawQuery,
        messageFields request.host request.headers request.body.length, request.body⟩ =
      render (textBytes request.method ++
          space :: (textBytes (requestTarget request.path request.rawQuery) ++ space :: version))
        ((messageFields request.host request.headers request.body.length).map fieldBytes) request.body := by
    rw [← textBytes_requestLineOf]
    rfl
  rw [bytes, parse_render
    ⟨notMem_token methodToken (by decide) (by decide), notMem_token methodToken (by decide) (by decide)⟩
      targetSingle
    capturable.clean capturable.contentLength]
  have spaced : space ∈ textBytes (requestTarget request.path request.rawQuery) ↔
      ' ' ∈ request.path.toList ∨ ' ' ∈ request.rawQuery.toList := by
    rw [mem_textBytes (by decide), ← space_mem_requestTarget]
    rfl
  simp only [spaced]

structure Recovered (request : GateHTTPRequest) (parsed : Message) : Prop where
  method : parsed.method = textBytes request.method
  path : parsed.path = textBytes (targetPath request.path)
  query : parsed.query = textBytes request.rawQuery
  fields : ∀ line ∈ request.headers.lines, excludedHeader line.1 = false → fieldBytes line ∈ parsed.fields
  body : parsed.body = request.body

theorem recovered_iff (accepted : semanticRequest request = .ok message) :
    (∃ parsed, parse message.bytes = some parsed ∧ Recovered request parsed) ↔
      ' ' ∉ request.path.toList ∧ ' ' ∉ request.rawQuery.toList ∧ '?' ∉ request.path.toList := by
  have marked : questionMark ∈ textBytes (targetPath request.path) ↔ '?' ∈ request.path.toList := by
    rw [mem_textBytes (by decide), ← mem_targetPath (c := '?') (by decide)]
    rfl
  rw [parse_bytes accepted]
  constructor
  · rintro ⟨parsed, read, recovered⟩
    split_ifs at read with spaced
    cases read
    obtain ⟨path, query⟩ := not_or.mp spaced
    refine ⟨path, query, ?_⟩
    rw [← marked, ← recovered.path]
    exact notMem_cut _ _
  · rintro ⟨path, query, plain⟩
    rw [← marked] at plain
    rw [if_neg (not_or.mpr ⟨path, query⟩)]
    have parts : cut questionMark (textBytes (requestTarget request.path request.rawQuery)) =
        (textBytes (targetPath request.path), textBytes request.rawQuery) := by
      unfold requestTarget
      split_ifs with asked
      · have mark : textBytes "?" = [questionMark] := by decide
        rw [textBytes_append, textBytes_append, mark, List.append_assoc]
        exact cut_append plain _
      · rw [not_not] at asked
        rw [cut_of_notMem plain, asked]
        rfl
    refine ⟨_, rfl, rfl, ?_, ?_, ?_, rfl⟩
    · rw [parts]
    · rw [parts]
    · intro line listed kept
      have written := (mem_semanticRequest_fields accepted).mpr (.inr (.inr (.inr ⟨listed, kept⟩)))
      exact List.mem_map_of_mem written

end

def FaithfulCapture (request : GateHTTPRequest) (message : SemanticRequest) (flowID : UInt32) : Prop :=
  ∃ added packets parsed, build request flowID = .ok (Capture.start.bytes ++ added) ∧ Records added packets ∧
    Exchange flowID 1000 5000 packets ∧ (packets.filter (fromClient flowID)).flatMap payloadOf = message.bytes ∧
    parse message.bytes = some parsed ∧ Recovered request parsed

theorem capture_faithful_iff {request : GateHTTPRequest} {message : SemanticRequest}
    (accepted : semanticRequest request = .ok message) (flowID : UInt32) :
    FaithfulCapture request message flowID ∧ Function.Injective syntheticTuple ↔
      ' ' ∉ request.path.toList ∧ ' ' ∉ request.rawQuery.toList ∧ '?' ∉ request.path.toList := by
  rw [← recovered_iff accepted]
  constructor
  · rintro ⟨⟨-, -, parsed, -, -, -, -, read, recovered⟩, -⟩
    exact ⟨parsed, read, recovered⟩
  · rintro ⟨parsed, read, recovered⟩
    obtain ⟨added, packets, built, records, exchange, payload⟩ := build_carries accepted flowID
    exact ⟨⟨added, packets, parsed, built, records, exchange, payload, read, recovered⟩,
      syntheticTuple_injective⟩

/-! ## Requests that pass the normalisation -/

omit [CaseMap] in
theorem countFields_length {entries : List (Sigma fun _ : String => List String)}
    {headerBytes headerCount : Int} {counted : Int × Int}
    (ok : countFields limits entries headerBytes headerCount = .ok counted) :
    headerCount + entries.length ≤ counted.2 := by
  induction entries generalizing headerBytes headerCount with
  | nil =>
    cases ok
    simp
  | cons entry entries ih =>
    obtain ⟨name, values⟩ := entry
    unfold countFields at ok
    dsimp only at ok
    split_ifs at ok with malformed
    have several : values.length ≠ 0 := fun none => malformed (.inr (List.eq_nil_of_length_eq_zero none))
    have later := ih ok
    rw [List.length_cons]
    omega

structure Normalized (request : HTTPRequest) (raw : List UInt8) (view : GateHTTPRequest) : Prop where
  method : view.method = request.method
  host : view.host = request.host
  path : view.path = request.url.escapedPath
  query : view.rawQuery = request.url.rawQuery
  headers : view.headers = request.header
  encoding : view.contentEncoding = Text.trimSpace (Text.toLower (request.header.get "Content-Encoding"))
  body : view.body = raw
  few : view.headers.fields.keys.length ≤ 256

theorem normalizeGateHTTPRequest_ok {request : HTTPRequest} {raw : List UInt8} {view : GateHTTPRequest}
    (accepted : normalizeGateHTTPRequest request raw limits = .ok view) : Normalized request raw view := by
  unfold normalizeGateHTTPRequest at accepted
  dsimp only at accepted
  split_ifs at accepted with head bounds
  split at accepted
  · cases accepted
  · rename_i counted
    split_ifs at accepted with exceeded
    cases accepted
    have length := countFields_length counted
    have same : request.header.fields.keys.length = request.header.fields.entries.length := List.length_map _
    refine ⟨rfl, rfl, rfl, rfl, rfl, rfl, rfl, ?_⟩
    change request.header.fields.keys.length ≤ 256
    omega

/-- The two layers count and check the head of a request differently, so a request can pass the first and fail the
second. -/
theorem inspectable_iff {request : HTTPRequest} {raw body : List UInt8} {limits : RequestGateConfig}
    {view : GateHTTPRequest} (accepted : normalizeGateHTTPRequest request raw limits = .ok view)
    (decoded : body.length ≤ 4194304) (flowID : UInt32) :
    (∃ pcap, build { view with body := body } flowID = .ok pcap) ↔
      Capturable request.method request.host request.url.escapedPath request.url.rawQuery request.header
        body.length := by
  obtain ⟨method, host, path, query, headers, -, -, few⟩ := normalizeGateHTTPRequest_ok accepted
  rw [← method, ← host, ← path, ← query, ← headers]
  constructor
  · rintro ⟨pcap, built⟩
    unfold build at built
    cases written : semanticRequest { view with body := body } with
    | error failure => simp [written] at built
    | ok message => exact (semanticRequest_iff.mp written).1
  · intro capturable
    have written : semanticRequest { view with body := body } = .ok _ :=
      semanticRequest_iff.mpr ⟨capturable, decoded, few, rfl⟩
    obtain ⟨added, packets, built, -⟩ := build_carries written flowID
    exact ⟨_, built⟩

end

section

attribute [local instance] Text.asciiCaseMap

def searchRequest (rawQuery : String) : GateHTTPRequest where
  method := "GET"
  host := "www.example.net"
  path := "/"
  rawQuery := rawQuery
  headers := .empty
  body := []
  httpVersion := "HTTP/2.0"
  contentType := ""
  contentEncoding := ""
  headerBytes := 0

def searchMessage (rawQuery : String) : SemanticRequest where
  requestLine := "GET /?" ++ rawQuery ++ " HTTP/1.1"
  fields := [("Host", "www.example.net"), ("Content-Length", "0"), ("Connection", "close")]
  body := []

theorem capture_faithful_search :
    FaithfulCapture (searchRequest "q=a+b") (searchMessage "q=a+b") 1 ∧ Function.Injective syntheticTuple :=
  (capture_faithful_iff (by decide +kernel) 1).mpr (by decide +kernel)

theorem spaced_query_unreadable :
    semanticRequest (searchRequest "q=a b") = .ok (searchMessage "q=a b") ∧
      ¬ FaithfulCapture (searchRequest "q=a b") (searchMessage "q=a b") 1 := by
  refine ⟨by decide +kernel, ?_⟩
  rintro ⟨-, -, parsed, -, -, -, -, read, -⟩
  have unread : HttpMessage.parse (searchMessage "q=a b").bytes = none := by decide +kernel
  rw [unread] at read
  cases read

def noteRequest (note : String) : HTTPRequest where
  method := "GET"
  protoMajor := 1
  protoMinor := 1
  proto := "HTTP/1.1"
  host := "www.example.net"
  url := { escapedPath := "/" }
  header := ⟨⟨[⟨"X-Note", [note]⟩], by simp⟩, fun key member => by
    obtain rfl : key = "X-Note" := List.mem_singleton.mp member
    decide⟩
  contentLength := 0
  body := none

theorem inspectable_note :
    ∃ view, normalizeGateHTTPRequest (noteRequest "a b") [] defaultRequestGateConfig = .ok view ∧
      ∃ pcap, build { view with body := [] } 1 = .ok pcap := by
  have accepted : (normalizeGateHTTPRequest (noteRequest "a b") [] defaultRequestGateConfig).toOption.isSome := by
    decide +kernel
  obtain ⟨view, seen⟩ := Option.isSome_iff_exists.mp accepted
  rw [toOption_some] at seen
  refine ⟨view, seen, (inspectable_iff seen (by decide) 1).mpr ⟨?_, ?_, ?_, ?_, ?_, ?_, ?_, ?_, ?_⟩⟩ <;>
    decide +kernel

theorem tabbed_value_uninspectable :
    ∃ view, normalizeGateHTTPRequest (noteRequest "a\tb") [] defaultRequestGateConfig = .ok view ∧
      ¬ ∃ pcap, build { view with body := [] } 1 = .ok pcap := by
  have refused : (normalizeGateHTTPRequest (noteRequest "a\tb") [] defaultRequestGateConfig).toOption.map
      (fun view => (build { view with body := [] } 1).toOption) = some none := by decide +kernel
  obtain ⟨view, seen, unbuilt⟩ := Option.map_eq_some_iff.mp refused
  rw [toOption_some] at seen
  refine ⟨view, seen, ?_⟩
  rintro ⟨pcap, built⟩
  rw [built] at unbuilt
  cases unbuilt

end

end Ngfw.Inspection
