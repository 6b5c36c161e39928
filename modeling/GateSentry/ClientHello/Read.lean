import GateSentry.Foundation.Stream

/-!
# Reading the first TLS record

`ReadClientHello` of `clienthello/read.go`: it reads a record header and the
record from the connection and checks that the record holds one ClientHello
handshake message.
-/

namespace GateSentry.GsClientHello

open Foundation

inductive ReadHelloError where
  | read (error : ReadError)
  | obsoleteSSLVersion
  | contentType (got : UInt8)
  | majorVersion (got : UInt8)
  | recordTooLong (length : Nat)
  | recordTooShort (length : Nat)
  | messageType (got : UInt8)
  | lengthMismatch (recordLen protocolLen : Nat)
  deriving DecidableEq

def checkHeader (header : Bytes) : Except ReadHelloError Nat :=
  if header.getD 0 0 ≠ 22 then
    if header.getD 0 0 = 128 then .error .obsoleteSSLVersion
    else .error (.contentType (header.getD 0 0))
  else if header.getD 1 0 ≠ 3 then .error (.majorVersion (header.getD 1 0))
  else
    let recordLen := bigEndian16 (header.getD 3 0) (header.getD 4 0)
    if recordLen > 0x3000 then .error (.recordTooLong recordLen)
    else if recordLen < 4 then .error (.recordTooShort recordLen)
    else .ok recordLen

def checkProtocolData (recordLen : Nat) (protocolData : Bytes) :
    Except ReadHelloError Unit :=
  if protocolData.getD 0 0 ≠ 1 then .error (.messageType (protocolData.getD 0 0))
  else
    let protocolLen := bigEndian24 (protocolData.getD 1 0) (protocolData.getD 2 0)
      (protocolData.getD 3 0)
    if protocolLen ≠ recordLen - 4 then .error (.lengthMismatch recordLen protocolLen)
    else .ok ()

/-- `ReadClientHello`: the bytes read, the error if any, and the stream left. -/
def readClientHello (stream : Stream) : Bytes × Option ReadHelloError × Stream :=
  match stream.readFull 5 with
  | (header, some error, rest) => (header, some (.read error), rest)
  | (header, none, rest) =>
    match checkHeader header with
    | .error error => (header, some error, rest)
    | .ok recordLen =>
      match rest.readFull recordLen with
      | (protocolData, some error, rest) => (header ++ protocolData, some (.read error), rest)
      | (protocolData, none, rest) =>
        match checkProtocolData recordLen protocolData with
        | .error error => (header ++ protocolData, some error, rest)
        | .ok () => (header ++ protocolData, none, rest)

/-! ## The accepted records -/

def IsHelloRecord (record : Bytes) : Prop :=
  ∃ minor high low a b c body,
    record = 22 :: 3 :: minor :: high :: low :: 1 :: a :: b :: c :: body ∧
    bigEndian16 high low = body.length + 4 ∧
    bigEndian24 a b c = body.length ∧
    body.length + 4 ≤ 0x3000

theorem checkHeader_eq_ok_iff (minor high low h0 h1 : UInt8) (recordLen : Nat) :
    checkHeader [h0, h1, minor, high, low] = .ok recordLen ↔
      h0 = 22 ∧ h1 = 3 ∧ recordLen = bigEndian16 high low ∧
        4 ≤ recordLen ∧ recordLen ≤ 0x3000 := by
  simp only [checkHeader, List.getD_cons_zero, List.getD_cons_succ]
  split
  · split <;> simp_all
  · split
    · simp_all
    · grind

theorem checkProtocolData_eq_ok_iff (recordLen : Nat) (t a b c : UInt8) (body : Bytes) :
    checkProtocolData recordLen (t :: a :: b :: c :: body) = .ok () ↔
      t = 1 ∧ bigEndian24 a b c = recordLen - 4 := by
  simp only [checkProtocolData, List.getD_cons_zero, List.getD_cons_succ]
  split
  · simp_all
  · split <;> simp_all

private theorem exists_header (header : Bytes) (h : header.length = 5) :
    ∃ h0 h1 minor high low, header = [h0, h1, minor, high, low] := by
  match header, h with
  | [h0, h1, minor, high, low], _ => exact ⟨h0, h1, minor, high, low, rfl⟩

private theorem exists_protocolData (data : Bytes) (h : 4 ≤ data.length) :
    ∃ t a b c body, data = t :: a :: b :: c :: body := by
  match data, h with
  | t :: a :: b :: c :: body, _ => exact ⟨t, a, b, c, body, rfl⟩

variable {stream rest : Stream}

theorem readClientHello_inversion {hello : Bytes}
    (h : readClientHello stream = (hello, none, rest)) :
    ∃ recordLen, 5 + recordLen ≤ stream.bytes.length ∧
      hello = stream.bytes.take 5 ++ (stream.bytes.drop 5).take recordLen ∧
      checkHeader (stream.bytes.take 5) = .ok recordLen ∧
      checkProtocolData recordLen ((stream.bytes.drop 5).take recordLen) = .ok () := by
  have hheader := Stream.readFull_bytes stream 5
  have hafter := Stream.readFull_rest stream 5
  have hfull := Stream.readFull_complete_iff stream 5
  rw [readClientHello] at h
  split at h
  · simp at h
  · rename_i header afterHeader hread
    simp only [hread, true_iff] at hheader hafter hfull
    split at h
    · simp at h
    · rename_i recordLen hcheck
      have hdata := Stream.readFull_bytes afterHeader recordLen
      have hdataFull := Stream.readFull_complete_iff afterHeader recordLen
      split at h
      · simp at h
      · rename_i protocolData afterData hreadData
        simp only [hreadData, true_iff, hafter, List.length_drop] at hdata hdataFull
        split at h
        · simp at h
        · rename_i hprotocol
          simp only [Prod.mk.injEq] at h
          refine ⟨recordLen, by omega, ?_, ?_, ?_⟩
          · rw [← h.1, hheader, hdata]
          · rw [← hheader]
            exact hcheck
          · rw [← hdata]
            exact hprotocol

theorem readClientHello_record {hello : Bytes} (h : readClientHello stream = (hello, none, rest)) :
    IsHelloRecord hello ∧ hello <+: stream.bytes := by
  obtain ⟨recordLen, hlength, rfl, hheader, hdata⟩ := readClientHello_inversion h
  obtain ⟨h0, h1, minor, high, low, hfive⟩ :=
    exists_header (stream.bytes.take 5)
      (by simp only [List.length_take]; omega)
  rw [hfive, checkHeader_eq_ok_iff] at hheader
  obtain ⟨rfl, rfl, hrecordLen, hmin, hmax⟩ := hheader
  obtain ⟨t, a, b, c, body, hrecord⟩ :=
    exists_protocolData ((stream.bytes.drop 5).take recordLen)
      (by simp only [List.length_take, List.length_drop]; omega)
  rw [hrecord, checkProtocolData_eq_ok_iff] at hdata
  obtain ⟨rfl, hprotocolLen⟩ := hdata
  have hbody : body.length + 4 = recordLen := by
    have := congrArg List.length hrecord
    simp only [List.length_take, List.length_drop, List.length_cons] at this
    omega
  constructor
  · rw [hfive, hrecord]
    exact ⟨minor, high, low, a, b, c, body, rfl, by omega, by omega, by omega⟩
  · rw [← List.take_add]
    exact List.take_prefix _ _

theorem readClientHello_of_record {stream : Stream} {record : Bytes}
    (hrecord : IsHelloRecord record) (hpre : record <+: stream.bytes) :
    ∃ rest, readClientHello stream = (record, none, rest) := by
  obtain ⟨minor, high, low, a, b, c, body, rfl, hlen, hprotocol, hmax⟩ := hrecord
  obtain ⟨after, hbytes⟩ := hpre
  have hheader := Stream.readFull_bytes stream 5
  have hafter := Stream.readFull_rest stream 5
  have hfull := Stream.readFull_complete_iff stream 5
  rw [← hbytes] at hheader hafter hfull
  rw [readClientHello]
  rcases hread : stream.readFull 5 with ⟨header, error, afterHeader⟩
  simp only [hread, List.cons_append, List.length_cons, List.take_succ_cons,
    List.take_zero, List.drop_succ_cons, List.drop_zero] at hheader hafter hfull
  obtain rfl : error = none := hfull.mpr (by omega)
  subst hheader
  have hcheck : checkHeader [22, 3, minor, high, low] = .ok (body.length + 4) := by
    rw [checkHeader_eq_ok_iff]
    exact ⟨rfl, rfl, hlen.symm, by omega, hmax⟩
  simp only [hcheck]
  have hdata := Stream.readFull_bytes afterHeader (body.length + 4)
  have hdataFull := Stream.readFull_complete_iff afterHeader (body.length + 4)
  rcases hreadData : afterHeader.readFull (body.length + 4) with
    ⟨protocolData, error, afterData⟩
  simp only [hreadData, hafter, List.take_succ_cons, List.take_left,
    List.length_cons, List.length_append] at hdata hdataFull
  obtain rfl : error = none := hdataFull.mpr (by omega)
  subst hdata
  have hchecked : checkProtocolData (body.length + 4) (1 :: a :: b :: c :: body) = .ok () := by
    rw [checkProtocolData_eq_ok_iff]
    exact ⟨rfl, hprotocol⟩
  simp only [hchecked]
  exact ⟨afterData, rfl⟩

/-- However a connection cuts its bytes into chunks, a record is accepted exactly if it is a
well-formed one that they begin with. -/
theorem readClientHello_accepts_iff (stream : Stream) (record : Bytes) :
    (∃ rest, readClientHello stream = (record, none, rest)) ↔
      IsHelloRecord record ∧ record <+: stream.bytes := by
  constructor
  · rintro ⟨rest, hread⟩
    exact readClientHello_record hread
  · rintro ⟨hrecord, hbegins⟩
    exact readClientHello_of_record hrecord hbegins

end GateSentry.GsClientHello
