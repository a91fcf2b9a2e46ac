import Mathlib.Control.Monad.Basic
import RobotAdmin.Proofs.Program.Outcome
import RobotAdmin.Proofs.Reply.Written

namespace RobotAdmin.Program

/-- A run that asks for JSON and succeeds prints the reply that it decoded from the last response. -/
theorem output_of_exitCode {words : List CommandLine.Word} {line : CommandLine} {command : Command}
    (hparse : CommandLine.parse words = .ok line) (htask : line.task = .send command) (hjson : line.json = true)
    {environment : Environment} {files : FileSystem} {network : Http.Network}
    (hexit : (run words environment files network).exitCode = 0) :
    ∃ front last response reply,
      network.since (run words environment files network).network = front ++ [(last, some response)] ∧
        Reply.decode (Utf8.encode (Utf8.decodeLossy response.body)) = .ok reply ∧
        (run words environment files network).output = reply.pretty ++ "\n" := by
  cases hsettings : effectiveSettings environment line.overrides files with
  | error fault =>
    rw [run_of_fault hparse htask hsettings network] at hexit
    cases hexit
  | ok settings =>
    rcases hpost : (clientOf settings).post adminRoute command network with ⟨fault | reply, after⟩
    · rw [run_of_failed hparse htask hsettings hpost] at hexit
      cases hexit
    · obtain ⟨_, _, _, hreply⟩ := Client.post_redirects hpost
      obtain ⟨_, front, last, response, _, hfront, hconfirmation⟩ := hreply reply rfl
      rw [run_of_confirmed hparse htask hsettings hpost]
      refine ⟨front, last, response, reply, hfront, (Client.confirmation_eq_ok hconfirmation).1, ?_⟩
      simp only [confirmationText, hjson, if_true]

/-- A decoded reply whose numbers are integers of 64 bits is decoded again from either text that is written of it,
    and these are then the texts written of what was decoded. What a run prints as JSON when it succeeds is the text
    of the reply that it decoded from the last response; where the numbers of that are such integers, it is a
    single JSON text that is decoded as the same reply. -/
theorem decode_of_written_reply :
    (∀ text reply, Reply.decode text = .ok reply → (∀ n ∈ reply.toJson.numbers, n.IsWord) →
      Reply.decode (Utf8.encode reply.compact) = .ok reply ∧
      Reply.decode (Utf8.encode reply.pretty) = .ok reply ∧
      (Reply.decode (Utf8.encode reply.compact)).map Reply.compact = .ok reply.compact ∧
      (Reply.decode (Utf8.encode reply.pretty)).map Reply.pretty = .ok reply.pretty) ∧
    ∀ words line command environment files network, CommandLine.parse words = .ok line →
      line.task = .send command → line.json = true → (run words environment files network).exitCode = 0 →
        ∃ front last response reply,
          network.since (run words environment files network).network = front ++ [(last, some response)] ∧
          Reply.decode (Utf8.encode (Utf8.decodeLossy response.body)) = .ok reply ∧
          (run words environment files network).output = reply.pretty ++ "\n" ∧
          ((∀ n ∈ reply.toJson.numbers, n.IsWord) →
            Json.decode (Utf8.encode (run words environment files network).output) = .ok reply.toJson ∧
            Reply.decode (Utf8.encode (run words environment files network).output) = .ok reply) := by
  constructor
  · intro text reply hreply hwords
    have hcompact := Reply.decode_compact hreply hwords
    have hpretty := Reply.decode_pretty hreply hwords
    exact ⟨hcompact, hpretty, by rw [hcompact]; rfl, by rw [hpretty]; rfl⟩
  · intro words line command environment files network hparse htask hjson hexit
    obtain ⟨front, last, response, reply, hfront, hreply, houtput⟩ := output_of_exitCode hparse htask hjson hexit
    refine ⟨front, last, response, reply, hfront, hreply, houtput, fun hwords => ?_⟩
    rw [houtput]
    exact Reply.decode_write hreply hwords .pretty "\n" rfl

/-- A peer that confirms the command with a body of its own. -/
def confirmingWith (body : String) : Http.Network := { answers := [some { status := 200, body := Utf8.encode body }] }

/-- A run against such a peer that asks for JSON. -/
def jsonRun (body : String) : Ending :=
  run (["update-firmware", "--server=http://h", "--json"].map Utf8.encode) ⟨[("HOME", Utf8.encode "/home")]⟩ {}
    (confirmingWith body)

/-- A negative number is printed and decoded again. -/
theorem decode_of_printed_integer :
    (jsonRun "\x7b\"rc\": \"ok\", \"n\": -5\x7d").exitCode = 0 ∧
      Reply.decode (Utf8.encode (jsonRun "\x7b\"rc\": \"ok\", \"n\": -5\x7d").output) =
        .ok { rc := "ok", extra := [("n", .number (.integer (-5)))] } := by
  have hparse : CommandLine.parse (["update-firmware", "--server=http://h", "--json"].map Utf8.encode) =
      .ok { server := some "http://h", json := true, task := .send .updateFirmware } := by decide +kernel
  have hexit : (jsonRun "\x7b\"rc\": \"ok\", \"n\": -5\x7d").exitCode = 0 := by decide +kernel
  obtain ⟨front, last, response, reply, hlast, hreply, _, hdecode⟩ :=
    decode_of_written_reply.2 _ _ _ _ _ _ hparse rfl rfl hexit
  -- The response that was decoded is the one that the peer has sent.
  have hbody : ((confirmingWith "\x7b\"rc\": \"ok\", \"n\": -5\x7d").since
      (jsonRun "\x7b\"rc\": \"ok\", \"n\": -5\x7d").network).getLast?.map (fun exchange => exchange.2.map (·.body)) =
        some (some (Utf8.encode "\x7b\"rc\": \"ok\", \"n\": -5\x7d")) := by decide +kernel
  rw [jsonRun, hlast, List.getLast?_concat] at hbody
  obtain hbody : response.body = _ := Option.some.inj (Option.some.inj hbody)
  have hknown : Reply.decode (Utf8.encode (Utf8.decodeLossy (Utf8.encode "\x7b\"rc\": \"ok\", \"n\": -5\x7d"))) =
      .ok { rc := "ok", extra := [("n", .number (.integer (-5)))] } := by cbv
  rw [hbody, hknown] at hreply
  obtain rfl := Except.ok.inj hreply
  have hwords : ∀ n ∈ (Reply.toJson { rc := "ok", extra := [("n", .number (.integer (-5)))] }).numbers, n.IsWord := by
    intro n hn
    obtain rfl := List.mem_singleton.mp hn
    exact ⟨by decide, by decide⟩
  exact ⟨hexit, (hdecode hwords).2⟩

/-- A number with a fraction is printed with digits that are decoded as another number. -/
theorem decode_of_printed_float :
    (jsonRun "\x7b\"rc\": \"ok\", \"x\": 123456789.123456789\x7d").exitCode = 0 ∧
      (Reply.decode (Utf8.encode "\x7b\"rc\": \"ok\", \"x\": 123456789.123456789\x7d")).map Reply.compact =
        .ok "\x7b\"rc\":\"ok\",\"x\":123456789.12345679\x7d" ∧
      (Reply.decode (Utf8.encode (jsonRun "\x7b\"rc\": \"ok\", \"x\": 123456789.123456789\x7d").output)).map
        Reply.compact = .ok "\x7b\"rc\":\"ok\",\"x\":123456789.1234568\x7d" ∧
      Reply.decode (Utf8.encode (jsonRun "\x7b\"rc\": \"ok\", \"x\": 123456789.123456789\x7d").output) ≠
        Reply.decode (Utf8.encode "\x7b\"rc\": \"ok\", \"x\": 123456789.123456789\x7d") := by
  have hbody : (Reply.decode (Utf8.encode "\x7b\"rc\": \"ok\", \"x\": 123456789.123456789\x7d")).map Reply.compact =
      .ok "\x7b\"rc\":\"ok\",\"x\":123456789.12345679\x7d" := by decide +kernel
  have houtput : (Reply.decode (Utf8.encode
      (jsonRun "\x7b\"rc\": \"ok\", \"x\": 123456789.123456789\x7d").output)).map Reply.compact =
        .ok "\x7b\"rc\":\"ok\",\"x\":123456789.1234568\x7d" := by decide +kernel
  refine ⟨by decide +kernel, hbody, houtput, fun hsame => ?_⟩
  rw [hsame, hbody] at houtput
  exact absurd (Except.ok.inj houtput) (by decide)

end RobotAdmin.Program
