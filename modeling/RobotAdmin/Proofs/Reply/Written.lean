import RobotAdmin.Proofs.Json.Written
import RobotAdmin.Proofs.Reply.Format

namespace RobotAdmin.Reply

open Json

/-- What holds of every decoded reply: the other members have names of their own in ascending order, and normal
    values with room for one more container around them. -/
structure IsNormal (reply : Reply) : Prop where
  sorted : IsSorted reply.extra
  known : ∀ name ∈ knownNames, reply.extra.lookup name = none
  values : ∀ member ∈ reply.extra, member.2.normal = member.2
  fits : ∀ member ∈ reply.extra, Fits (maxDepth - 1) member.2

theorem isNormal_of_decode {text : List UInt8} {reply : Reply} (hreply : decode text = .ok reply) :
    reply.IsNormal := by
  obtain ⟨members, hmembers, hdescribes⟩ := decode_eq_ok_iff.mp hreply
  obtain ⟨rest, hread, _⟩ := readAll_eq_ok_iff.mp hmembers
  have hfits : ∀ member ∈ members, Fits (maxDepth - 1) member.2 := fits_of_reads hread
  refine ⟨hdescribes.sorted, hdescribes.known, fun member hmem => ?_, fun member hmem => ?_⟩
  all_goals
    rw [hdescribes.extra_eq] at hmem
    obtain ⟨before, hbefore, rfl⟩ := exists_of_mem_sortMembers_normalMembers hmem
  · exact normal_normal before.2
  · exact (hfits before (List.mem_of_mem_filter hbefore)).normal

theorem members_eq (reply : Reply) :
    reply.members = [("rc", text reply.rc)] ++ (reply.message.map fun s => ("message", text s)).toList ++
      (reply.cause.map fun s => ("cause", text s)).toList ++ reply.extra := rfl

/-- The values of a known name are those of its own member, the values of another name those of the others. -/
theorem valuesOf_members (reply : Reply) (name : String) :
    valuesOf name reply.members =
      (if name = "rc" then [.text reply.rc] else []) ++
      (if name = "message" then (reply.message.map text).toList else []) ++
      (if name = "cause" then (reply.cause.map text).toList else []) ++ valuesOf name reply.extra := by
  have hoptional (known : String) (found : Option String) :
      valuesOf name (found.map fun s => (known, text s)).toList =
        if name = known then (found.map text).toList else [] := by
    cases found <;> by_cases hname : name = known <;> simp [valuesOf_cons, valuesOf_nil, hname, eq_comm]
  have hrc : valuesOf name [("rc", text reply.rc)] = if name = "rc" then [text reply.rc] else [] :=
    hoptional "rc" (some reply.rc)
  rw [members_eq, valuesOf_append, valuesOf_append, valuesOf_append, hrc, hoptional, hoptional]

theorem optionalText_toList (found : Option String) : OptionalText (found.map text).toList found := by
  cases found with
  | none => exact .absent
  | some s => exact .given s

/-- The members of a decoded reply describe it. -/
theorem IsNormal.describes {reply : Reply} (hnormal : reply.IsNormal) : Describes reply.members reply := by
  have hextra (name : String) : valuesOf name reply.extra = (reply.extra.lookup name).toList :=
    hnormal.sorted.valuesOf_eq name
  have hknown (name : String) (hname : name ∈ knownNames) : valuesOf name reply.extra = [] := by
    rw [hextra, hnormal.known name hname, Option.toList_none]
  refine ⟨?_, ?_, ?_, hnormal.sorted, hnormal.known, fun name hname => ?_⟩
  · simp [valuesOf_members, hknown "rc" (by decide)]
  · simpa [valuesOf_members, hknown "message" (by decide)] using optionalText_toList reply.message
  · simpa [valuesOf_members, hknown "cause" (by decide)] using optionalText_toList reply.cause
  · simp only [knownNames, List.mem_cons, List.not_mem_nil, or_false, not_or] at hname
    simp only [valuesOf_members, hname, if_false, List.nil_append, hextra]
    cases hlookup : reply.extra.lookup name with
    | none => rfl
    | some value =>
      have hvalue := hnormal.values (name, value) (hnormal.sorted.mem_iff.mpr hlookup)
      exact (congrArg some hvalue).symm

theorem IsNormal.fits_toJson {reply : Reply} (hnormal : reply.IsNormal) : Fits maxDepth reply.toJson := by
  intro member hmem
  rw [members_eq] at hmem
  have htext (s : String) : Fits (maxDepth - 1) (text s) := trivial
  simp only [List.mem_append, List.mem_singleton, Option.mem_toList, Option.map_eq_some_iff] at hmem
  obtain ((rfl | ⟨s, _, rfl⟩) | ⟨s, _, rfl⟩) | hmem := hmem
  · exact htext reply.rc
  · exact htext s
  · exact htext s
  · exact hnormal.fits member hmem

/-- A decoded reply whose numbers are integers of 64 bits is decoded from what is written of it, in either layout
    and also with white space behind it. -/
theorem decode_write {text : List UInt8} {reply : Reply} (hreply : decode text = .ok reply)
    (hwords : ∀ n ∈ reply.toJson.numbers, n.IsWord) (layout : Layout) (blank : String)
    (hblank : skipSpace (Utf8.encode blank) = []) :
    Json.decode (Utf8.encode (String.ofList (write layout 0 reply.toJson) ++ blank)) = .ok reply.toJson ∧
      decode (Utf8.encode (String.ofList (write layout 0 reply.toJson) ++ blank)) = .ok reply := by
  have hnormal := isNormal_of_decode hreply
  have hencode : Utf8.encode (String.ofList (write layout 0 reply.toJson) ++ blank) =
      Utf8.encodeChars (write layout 0 reply.toJson) ++ Utf8.encode blank := by
    simp only [Utf8.encode, String.toList_append, String.toList_ofList, Utf8.encodeChars_append]
  rw [hencode]
  have hjson := Json.decode_write hwords hnormal.fits_toJson layout hblank
  exact ⟨hjson, decode_eq_ok_iff.mpr ⟨reply.members, hjson, hnormal.describes⟩⟩

theorem decode_compact {text : List UInt8} {reply : Reply} (hreply : decode text = .ok reply)
    (hwords : ∀ n ∈ reply.toJson.numbers, n.IsWord) : decode (Utf8.encode reply.compact) = .ok reply := by
  have hdecode := (decode_write hreply hwords .compact "" rfl).2
  rwa [String.append_empty] at hdecode

theorem decode_pretty {text : List UInt8} {reply : Reply} (hreply : decode text = .ok reply)
    (hwords : ∀ n ∈ reply.toJson.numbers, n.IsWord) : decode (Utf8.encode reply.pretty) = .ok reply := by
  have hdecode := (decode_write hreply hwords .pretty "" rfl).2
  rwa [String.append_empty] at hdecode

end RobotAdmin.Reply
