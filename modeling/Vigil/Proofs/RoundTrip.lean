import Vigil.Proofs.Rendering
import Vigil.Wire

/-!
What nodes send each other is read as it was written, whatever texts are in it: quotes, backslashes,
control characters and characters beyond 16 bits come out as they went in, and a ping that names no
cluster still names none.
-/

namespace Vigil

namespace Json

/-- A value whose text can be read in full, and a message that it is read as. -/
structure Conveys {α : Type} (read : Json → Read α) (v : Json) (a : α) : Prop where
  readable : v.isReadable depthLimit = true
  spells : Spells v.words v.render
  reads : read v = .ok a

/-- What is written is read as it was, so that different messages have different texts. -/
structure Faithful {α : Type} (write : α → Json) (read : Json → Read α) : Prop where
  reads : ∀ a, ofText read (write a).toText = .ok a
  distinct : ∀ a b, (write a).toText = (write b).toText → a = b

variable {α : Type} {read : Json → Read α}

theorem Conveys.ofText_toText {v : Json} {a : α} (h : Conveys read v a) :
    ofText read v.toText = .ok a := by
  rw [ofText, toText, String.toList_ofList, readText_spells h.readable h.spells, h.reads]

theorem faithful_of_conveys {write : α → Json} (h : ∀ a, Conveys read (write a) a) :
    Faithful write read where
  reads a := (h a).ofText_toText
  distinct a b same := by
    have first := (h a).ofText_toText
    rw [same, (h b).ofText_toText] at first
    exact (Except.ok.inj first).symm

end Json

open Json (Conveys Faithful spells_text spells_record)

namespace Node

theorem spells (n : Node) : Json.Spells n.toJson.words n.toJson.render := by
  apply spells_record
  simp only [List.forall_mem_cons, spells_text, List.not_mem_nil, false_implies, implies_true,
    and_self]

theorem conveys (n : Node) : Conveys ofJson n.toJson n := ⟨rfl, n.spells, rfl⟩

end Node

theorem ClusterName.conveys (name : ClusterName) : Conveys ofJson (toJson name) name :=
  ⟨rfl, spells_text name, rfl⟩

theorem PingRequest.conveys (r : PingRequest) : Conveys ofJson r.toJson r := by
  obtain ⟨source, leader, cluster⟩ := r
  cases cluster with
  | none =>
    refine ⟨rfl, spells_record ?_, rfl⟩
    simp [Node.spells]
  | some name =>
    refine ⟨rfl, spells_record ?_, rfl⟩
    simp [Node.spells, ClusterName.toJson, spells_text]

theorem PingResponse.conveys (r : PingResponse) : Conveys ofJson r.toJson r :=
  ⟨rfl, spells_record nofun, rfl⟩

namespace Rejection

theorem spells (r : Rejection) : Json.Spells r.toJson.words r.toJson.render := by
  apply spells_record
  cases r <;> simp [spells_text]

theorem conveys (r : Rejection) : Conveys ofJson r.toJson r := by
  cases r <;> exact ⟨rfl, spells _, rfl⟩

end Rejection

theorem RejectionBody.conveys (b : RejectionBody) : Conveys ofJson b.toJson b := by
  obtain ⟨r⟩ := b
  have inner : Json.Spells (toJson ⟨r⟩).words (toJson ⟨r⟩).render := by
    apply spells_record
    simp [r.spells]
  cases r <;> exact ⟨rfl, inner, rfl⟩

theorem ErrorBody.conveys (b : ErrorBody) : Conveys ofJson b.toJson b := by
  refine ⟨rfl, spells_record ?_, rfl⟩
  simp [spells_text]

/-- Every message is read from its text as it was written, and no two have the same text. -/
theorem messages_faithful :
    Faithful Node.toJson Node.ofJson ∧ Faithful ClusterName.toJson ClusterName.ofJson ∧
      Faithful PingRequest.toJson PingRequest.ofJson ∧
      Faithful PingResponse.toJson PingResponse.ofJson ∧
      Faithful Rejection.toJson Rejection.ofJson ∧
      Faithful RejectionBody.toJson RejectionBody.ofJson ∧
      Faithful ErrorBody.toJson ErrorBody.ofJson := by
  refine ⟨?_, ?_, ?_, ?_, ?_, ?_, ?_⟩ <;> apply Json.faithful_of_conveys
  · exact Node.conveys
  · exact ClusterName.conveys
  · exact PingRequest.conveys
  · exact PingResponse.conveys
  · exact Rejection.conveys
  · exact RejectionBody.conveys
  · exact ErrorBody.conveys

/-- A text may be written in other ways than that of `Json.toText`. -/
example : Json.ofText ClusterName.ofJson " \"\\ud83d\\ude00\\/\\u0041\" " = .ok "😀/A" := by
  rfl

end Vigil
