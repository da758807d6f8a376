import HostDaemon.Proofs.Wire.Lines
import HostDaemon.Proofs.Wire.Records

/-! # The way of a message

  Every request and every response comes out of its line as it went in.

  - The views of a server are read as they were written: `ServerSummary.decode_encode`,
    `ServerSecrets.decode_encode` and `QueryReport.decode_encode`.
  - `Wire.Written` says that a message is its name and fields, of which it is made again.
    `Request.written` and `Response.written` show it for each message.
  - `Wire.round_trip` is the main result. -/

namespace HostDaemon

open Json Wire Wire.Fields

/-! ### Plain values -/

namespace Json

variable {depth : Nat}

theorem plain_ofNat {n : Nat} (h : n < 0x10000000000000000) : Plain depth (.integer n) :=
  .integer (by omega) (by omega)

@[simp] theorem plain_text (s : String) : Plain depth (.text s) := .text s

@[simp] theorem plain_bool (b : Bool) : Plain depth (.bool b) := .bool b

@[simp] theorem plain_ofUInt16 (n : UInt16) : Plain depth (.ofUInt16 n) :=
  plain_ofNat (Nat.lt_trans n.toNat_lt (by decide))

@[simp] theorem plain_ofUInt32 (n : UInt32) : Plain depth (.ofUInt32 n) :=
  plain_ofNat (Nat.lt_trans n.toNat_lt (by decide))

@[simp] theorem plain_ofUInt64 (n : UInt64) : Plain depth (.ofUInt64 n) := plain_ofNat n.toNat_lt

@[simp] theorem plain_ofInt64 (n : Int64) : Plain depth (.ofInt64 n) :=
  .integer n.le_toInt (Int.lt_trans n.toInt_lt (by decide))

@[simp] theorem plain_ofTexts (texts : List String) : Plain (depth + 1) (.ofTexts texts) := by
  apply Plain.array
  intro v hv
  obtain ⟨s, -, rfl⟩ := List.mem_map.1 hv
  exact .text s

end Json

/-! ### Views of a server -/

theorem ServerStage.decode_name (stage : ServerStage) :
    ServerStage.decode (.text stage.name) = .ok stage := by
  cases stage with
  | launching => rfl
  | running => rfl
  | stopped => rfl

theorem ServerSummary.decode_encode (s : ServerSummary) : decode s.encode = .ok s := by
  obtain ⟨id, port, owner, hostname, version, iwad, wads, stage, pid, uptime, restarts, isProtected,
    autoRestart, lastActivity⟩ := s
  cases pid
  -- The process identifier is there or not; all other members are the same.
  all_goals
    refine Makes.decode_eq ?_ _ (by simp)
    refine .seq ?_ (.required rfl (int64_ofInt64 lastActivity))
    refine .seq ?_ (.withDefault _ rfl rfl)
    refine .seq ?_ (.withDefault _ rfl rfl)
    refine .seq ?_ (.withDefault _ rfl (uint32_ofUInt32 restarts))
    refine .seq ?_ (.required rfl (uint64_ofUInt64 uptime))
    refine .seq ?_ (.optional .ofUInt32 rfl (fun _ => Json.noConfusion) uint32_ofUInt32)
    refine .seq ?_ (.required rfl (ServerStage.decode_name stage))
    refine .seq ?_ (.withDefault _ rfl (list_ofTexts wads))
    refine .seq ?_ (.required rfl rfl)
    refine .seq ?_ (.required rfl rfl)
    refine .seq ?_ (.required rfl rfl)
    refine .seq ?_ (.required rfl rfl)
    refine .seq ?_ (.required rfl (uint16_ofUInt16 port))
    exact .map _ (.required rfl rfl)

theorem ServerSummary.plain_encode {depth : Nat} (s : ServerSummary) :
    Plain (depth + 2) s.encode := by
  apply Plain.object
  cases s.pid
  all_goals simp

theorem ServerSecrets.decode_encode (s : ServerSecrets) : decode s.encode = .ok s := by
  obtain ⟨id, port, rconPassword, joinPassword, connectPassword, logPath⟩ := s
  refine Makes.decode_eq ?_ _ (by simp)
  refine .seq ?_ (.required rfl rfl)
  refine .seq ?_ (.required rfl rfl)
  refine .seq ?_ (.required rfl rfl)
  refine .seq ?_ (.required rfl rfl)
  refine .seq ?_ (.required rfl (uint16_ofUInt16 port))
  exact .map _ (.required rfl rfl)

theorem ServerSecrets.plain_encode {depth : Nat} (s : ServerSecrets) :
    Plain (depth + 1) s.encode := by
  apply Plain.object
  simp

theorem QueryReport.decode_encode (r : QueryReport) : decode r.encode = .ok r := by
  obtain ⟨summary, recent⟩ := r
  refine Makes.decode_eq ?_ _ (by simp)
  refine .seq ?_ (.withDefault _ rfl (list_ofTexts recent))
  exact .map _ (.required rfl summary.decode_encode)

theorem QueryReport.plain_encode {depth : Nat} (r : QueryReport) :
    Plain (depth + 3) r.encode := by
  apply Plain.object
  simp [r.summary.plain_encode]

/-! ### Messages -/

/-- A message is its name and its fields: the name is one of those that are possible, the fields
    are plain values under other names than that of the name, and of both the message is made
    again. -/
structure Wire.Written {α : Type} (possible : List String)
    (ofTagged : Tagged → Except DecodeFault α) (message : α) (tag : String)
    (fields : List (String × Json)) : Prop where
  named : tag ∈ possible
  plain : ∀ m ∈ fields, Plain (maxDepth - 1) m.2
  unnamed : ∀ m ∈ fields, m.1 ≠ tagName
  made : ofTagged ⟨tag, .object fields⟩ = .ok message

theorem Request.written (r : Request) :
    ∃ tag fields, r.encode = Tagged.encode tag fields ∧ Written names ofTagged r tag fields := by
  cases r with
  | host owner options port recovering =>
    cases port
    all_goals
      refine ⟨_, _, rfl, by decide, by simp [member?], by simp [member?, tagName], ?_⟩
      refine Makes.decode_eq ?_ _ (by simp [member?])
      refine .seq ?_ (.withDefault _ rfl rfl)
      refine .seq ?_ (.optional .ofUInt16 rfl (fun _ => Json.noConfusion) uint16_ofUInt16)
      exact .seq (.map _ (.required rfl rfl)) (.required rfl rfl)
  | kill requester port =>
    refine ⟨_, _, rfl, by decide, by simp, by simp [tagName], ?_⟩
    refine Makes.decode_eq ?_ _ (by simp)
    exact .seq (.map _ (.required rfl rfl)) (.required rfl (uint16_ofUInt16 port))
  | killMine requester =>
    refine ⟨_, _, rfl, by decide, by simp, by simp [tagName], ?_⟩
    refine Makes.decode_eq ?_ _ (by simp)
    exact .map _ (.required rfl rfl)
  | list owner =>
    cases owner
    all_goals
      refine ⟨_, _, rfl, by decide, by simp [member?], by simp [member?, tagName], ?_⟩
      refine Makes.decode_eq ?_ _ (by simp [member?])
      exact .map _ (.optional .text rfl (fun _ => Json.noConfusion) fun _ => rfl)
  | send requester port command =>
    refine ⟨_, _, rfl, by decide, by simp, by simp [tagName], ?_⟩
    refine Makes.decode_eq ?_ _ (by simp)
    refine .seq ?_ (.required rfl rfl)
    exact .seq (.map _ (.required rfl rfl)) (.required rfl (uint16_ofUInt16 port))
  | sendAll requester command =>
    refine ⟨_, _, rfl, by decide, by simp, by simp [tagName], ?_⟩
    refine Makes.decode_eq ?_ _ (by simp)
    exact .seq (.map _ (.required rfl rfl)) (.required rfl rfl)
  | broadcast requester message =>
    refine ⟨_, _, rfl, by decide, by simp, by simp [tagName], ?_⟩
    refine Makes.decode_eq ?_ _ (by simp)
    exact .seq (.map _ (.required rfl rfl)) (.required rfl rfl)
  | killAll requester =>
    refine ⟨_, _, rfl, by decide, by simp, by simp [tagName], ?_⟩
    refine Makes.decode_eq ?_ _ (by simp)
    exact .map _ (.required rfl rfl)
  | killVersion requester version =>
    refine ⟨_, _, rfl, by decide, by simp, by simp [tagName], ?_⟩
    refine Makes.decode_eq ?_ _ (by simp)
    exact .seq (.map _ (.required rfl rfl)) (.required rfl rfl)
  | killInactive requester days =>
    refine ⟨_, _, rfl, by decide, by simp, by simp [tagName], ?_⟩
    refine Makes.decode_eq ?_ _ (by simp)
    exact .seq (.map _ (.required rfl rfl)) (.required rfl (uint64_ofUInt64 days))
  | protect requester port =>
    refine ⟨_, _, rfl, by decide, by simp, by simp [tagName], ?_⟩
    refine Makes.decode_eq ?_ _ (by simp)
    exact .seq (.map _ (.required rfl rfl)) (.required rfl (uint16_ofUInt16 port))
  | info requester port =>
    refine ⟨_, _, rfl, by decide, by simp, by simp [tagName], ?_⟩
    refine Makes.decode_eq ?_ _ (by simp)
    exact .seq (.map _ (.required rfl rfl)) (.required rfl (uint16_ofUInt16 port))
  | log requester port lines =>
    refine ⟨_, _, rfl, by decide, by simp, by simp [tagName], ?_⟩
    refine Makes.decode_eq ?_ _ (by simp)
    refine .seq ?_ (.withDefault _ rfl (count_ofUInt64 lines))
    exact .seq (.map _ (.required rfl rfl)) (.required rfl (uint16_ofUInt16 port))
  | query port =>
    refine ⟨_, _, rfl, by decide, by simp, by simp [tagName], ?_⟩
    refine Makes.decode_eq ?_ _ (by simp)
    exact .map _ (.required rfl (uint16_ofUInt16 port))
  | cleanup requester =>
    refine ⟨_, _, rfl, by decide, by simp, by simp [tagName], ?_⟩
    refine Makes.decode_eq ?_ _ (by simp)
    exact .map _ (.required rfl rfl)
  | accepting requester enabled =>
    refine ⟨_, _, rfl, by decide, by simp, by simp [tagName], ?_⟩
    refine Makes.decode_eq ?_ _ (by simp)
    exact .seq (.map _ (.required rfl rfl)) (.required rfl rfl)
  | shutdown => exact ⟨_, _, rfl, by decide, by simp, by simp, rfl⟩

theorem Response.written (r : Response) :
    ∃ tag fields, r.encode = Tagged.encode tag fields ∧ Written names ofTagged r tag fields := by
  cases r with
  | success message =>
    cases message
    all_goals
      refine ⟨_, _, rfl, by decide, by simp, by simp [tagName], ?_⟩
      refine Makes.decode_eq ?_ _ (by simp)
      exact .map _ (.optional .text rfl (fun _ => Json.noConfusion) fun _ => rfl)
  | error message =>
    refine ⟨_, _, rfl, by decide, by simp, by simp [tagName], ?_⟩
    refine Makes.decode_eq ?_ _ (by simp)
    exact .map _ (.required rfl rfl)
  | hosted server =>
    refine ⟨_, _, rfl, by decide, ?_, by simp [tagName], ?_⟩
    · exact List.forall_mem_singleton.2 server.plain_encode
    · refine Makes.decode_eq ?_ _ (by simp)
      exact .map _ (.required rfl server.decode_encode)
  | serverList servers =>
    refine ⟨_, _, rfl, by decide, ?_, by simp [tagName], ?_⟩
    · refine List.forall_mem_singleton.2 (.array ?_)
      intro v hv
      obtain ⟨server, -, rfl⟩ := List.mem_map.1 hv
      exact server.plain_encode
    · refine Makes.decode_eq ?_ _ (by simp)
      exact .map _ (.required rfl (list_eq_ok fun server _ => server.decode_encode))
  | serverInfo info =>
    refine ⟨_, _, rfl, by decide, ?_, by simp [tagName], ?_⟩
    · exact List.forall_mem_singleton.2 info.plain_encode
    · refine Makes.decode_eq ?_ _ (by simp)
      exact .map _ (.required rfl info.decode_encode)
  | logLines port lines =>
    refine ⟨_, _, rfl, by decide, ?_, by simp [tagName], ?_⟩
    · exact List.forall_mem_cons.2
        ⟨plain_ofUInt16 port, List.forall_mem_singleton.2 (plain_ofTexts lines)⟩
    · refine Makes.decode_eq ?_ _ (by simp)
      refine .seq ?_ (.required rfl (list_ofTexts lines))
      exact .map _ (.required rfl (uint16_ofUInt16 port))
  | queryResult report =>
    refine ⟨_, _, rfl, by decide, ?_, by simp [tagName], ?_⟩
    · exact List.forall_mem_singleton.2 report.plain_encode
    · refine Makes.decode_eq ?_ _ (by simp)
      exact .map _ (.required rfl report.decode_encode)

/-- A message comes out of its line as it went in, also where more blanks follow, and the line holds
    one line feed, its last byte. -/
theorem Wire.Written.readLine_eq {α : Type} {possible : List String}
    {ofTagged : Tagged → Except DecodeFault α} {message : α} {tag : String}
    {fields : List (String × Json)} (h : Written possible ofTagged message tag fields)
    (what : String) :
    (Text.Utf8.bytesOf (writeLine (Tagged.encode tag fields))).count 10 = 1 ∧
      (Text.Utf8.bytesOf (writeLine (Tagged.encode tag fields))).getLast? = some 10 ∧
      ∀ ws : String, (∀ c ∈ ws.toList, Text.isBlank c = true) →
        readLine what possible ofTagged (writeLine (Tagged.encode tag fields) ++ ws) =
          .ok message := by
  obtain ⟨hcount, hlast⟩ := lineFeed_last (plain_encode tag h.plain)
  refine ⟨hcount, hlast, ?_⟩
  intro ws hblank
  exact readLine_writeLine what h.named h.plain h.unnamed h.made hblank

/-- Every request and every response is written on one line, which a line feed ends, and is read
    from it as it was, whatever blanks follow. -/
theorem Wire.round_trip :
    (∀ r : Request,
      (Text.Utf8.bytesOf r.writeLine).count 10 = 1 ∧
      (Text.Utf8.bytesOf r.writeLine).getLast? = some 10 ∧
      ∀ ws : String, (∀ c ∈ ws.toList, Text.isBlank c = true) →
        Request.readLine (r.writeLine ++ ws) = .ok r) ∧
    (∀ r : Response,
      (Text.Utf8.bytesOf r.writeLine).count 10 = 1 ∧
      (Text.Utf8.bytesOf r.writeLine).getLast? = some 10 ∧
      ∀ ws : String, (∀ c ∈ ws.toList, Text.isBlank c = true) →
        Response.readLine (r.writeLine ++ ws) = .ok r) := by
  constructor
  · intro r
    obtain ⟨tag, fields, hencode, hwritten⟩ := r.written
    rw [Request.writeLine, hencode]
    exact hwritten.readLine_eq "Request"
  · intro r
    obtain ⟨tag, fields, hencode, hwritten⟩ := r.written
    rw [Response.writeLine, hencode]
    exact hwritten.readLine_eq "Response"

/-- A request and a response with quotes, line breaks and control characters in their texts, and
    with the largest and the least number that fits, come back from their lines. -/
theorem Wire.round_trip_of_odd_texts :
    (∀ c ∈ " \r\n\u2003".toList, Text.isBlank c = true) ∧
    Request.readLine
        ((Request.host "al\u0000" "hostname=\"Bär\\\"\n" (some 65535) true).writeLine ++
          " \r\n\u2003") =
      .ok (.host "al\u0000" "hostname=\"Bär\\\"\n" (some 65535) true) ∧
    Response.readLine ((Response.serverList [⟨"", 0, "\t", "€ 😀", "v", "doom2.wad", ["\"", ""],
        .stopped, none, 18446744073709551615, 0, true, false, -9223372036854775808⟩]).writeLine ++
        " \r\n\u2003") =
      .ok (.serverList [⟨"", 0, "\t", "€ 😀", "v", "doom2.wad", ["\"", ""],
        .stopped, none, 18446744073709551615, 0, true, false, -9223372036854775808⟩]) := by
  have hblank : ∀ c ∈ " \r\n\u2003".toList, Text.isBlank c = true :=
    List.all_eq_true.1 (by decide)
  obtain ⟨-, -, hrequest⟩ :=
    Wire.round_trip.1 (.host "al\u0000" "hostname=\"Bär\\\"\n" (some 65535) true)
  obtain ⟨-, -, hresponse⟩ :=
    Wire.round_trip.2 (.serverList [⟨"", 0, "\t", "€ 😀", "v", "doom2.wad", ["\"", ""],
      .stopped, none, 18446744073709551615, 0, true, false, -9223372036854775808⟩])
  exact ⟨hblank, hrequest _ hblank, hresponse _ hblank⟩

end HostDaemon
