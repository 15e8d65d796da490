import ChainFlow.Node.Payload
import ChainFlow.Proofs.Schema.Scalar

/-!
# Parts in a flow that read back

The part of a node in the flow is read back from the fields under which its values stand, for each of
the five kinds.
-/

namespace ChainFlow

open Schema
open Json (IsProper ItemsProper FieldsProper)

/-! ## Reading back -/

section

variable {fields : Fields}

theorem Start.read_of_stands {start : Start} (stands : Stands fields Start.labels start.values) :
    Start.read fields = .ok start := by
  obtain ⟨chain, token, amount, address, -⟩ := stands
  unfold Start.read ChainId.read
  rw [rereads_integer.required chain, rereads_token.required token, rereads_text.optional amount,
    rereads_text.optional address]
  rfl

theorem Bridge.read_of_stands {bridge : Bridge} (stands : Stands fields Bridge.labels bridge.values) :
    Bridge.read fields = .ok bridge := by
  obtain ⟨toChain, amount, fromChain, token, -⟩ := stands
  unfold Bridge.read ChainId.read
  rw [rereads_integer.required toChain, rereads_text.required amount,
    rereads_integer.optional fromChain, rereads_token.optional token]
  rfl

theorem Transfer.read_of_stands {transfer : Transfer}
    (stands : Stands fields Transfer.labels transfer.values) :
    Transfer.read fields = .ok transfer := by
  obtain ⟨amount, recipient, chain, token, -⟩ := stands
  unfold Transfer.read ChainId.read
  rw [rereads_text.required amount, rereads_text.required recipient,
    rereads_integer.optional chain, rereads_token.optional token]
  rfl

theorem ContractCall.read_of_stands {call : ContractCall}
    (stands : Stands fields ContractCall.labels call.values) :
    ContractCall.read fields = .ok call := by
  obtain ⟨action, amount, chain, token, contract, parameters, -⟩ := stands
  unfold ContractCall.read ChainId.read
  rw [rereads_action.required action, rereads_text.required amount,
    rereads_integer.optional chain, rereads_token.optional token, rereads_text.optional contract,
    rereads_dictionary.optional parameters]
  rfl

theorem Finish.read_of_stands {finish : Finish} (stands : Stands fields Finish.labels finish.values) :
    Finish.read fields = .ok finish := by
  obtain ⟨chain, token, amount, description, -⟩ := stands
  unfold Finish.read ChainId.read
  rw [rereads_integer.optional chain, rereads_token.optional token, rereads_text.optional amount,
    rereads_text.optional description]
  rfl

theorem Estimate.read_of_stands {estimate : Estimate}
    (stands : Stands fields Estimate.labels estimate.values) :
    Estimate.read fields = .ok estimate := by
  obtain ⟨cost, seconds, -⟩ := stands
  unfold Estimate.read
  rw [rereads_text.optional cost, rereads_integer.optional seconds]
  rfl

/-- The labels of a part in the flow, without those that every payload has. -/
def Kind.roleLabels : Kind → List Label
  | .start => Start.labels
  | .bridge => Estimate.labels ++ Bridge.labels
  | .transfer => Estimate.labels ++ Transfer.labels
  | .call => Estimate.labels ++ ContractCall.labels
  | .finish => Finish.labels

theorem Kind.labels_eq (kind : Kind) : kind.labels = [.same "label", .same "status"] ++ kind.roleLabels := by
  cases kind <;> rfl

theorem Role.read_of_stands {role : Role} (stands : Stands fields role.kind.roleLabels role.values) :
    Role.read role.kind fields = .ok role := by
  match role with
  | .start own =>
    unfold Role.read
    dsimp only [Role.kind]
    rw [Start.read_of_stands stands]
    rfl
  | .action (.bridge own) estimate =>
    obtain ⟨cost, seconds, work⟩ := stands
    have first : Estimate.read fields = .ok estimate :=
      Estimate.read_of_stands ⟨cost, seconds, trivial⟩
    unfold Role.read
    dsimp only [Role.kind]
    rw [first, Bridge.read_of_stands work]
    rfl
  | .action (.transfer own) estimate =>
    obtain ⟨cost, seconds, work⟩ := stands
    have first : Estimate.read fields = .ok estimate :=
      Estimate.read_of_stands ⟨cost, seconds, trivial⟩
    unfold Role.read
    dsimp only [Role.kind]
    rw [first, Transfer.read_of_stands work]
    rfl
  | .action (.call own) estimate =>
    obtain ⟨cost, seconds, work⟩ := stands
    have first : Estimate.read fields = .ok estimate :=
      Estimate.read_of_stands ⟨cost, seconds, trivial⟩
    unfold Role.read
    dsimp only [Role.kind]
    rw [first, ContractCall.read_of_stands work]
    rfl
  | .finish own =>
    unfold Role.read
    dsimp only [Role.kind]
    rw [Finish.read_of_stands stands]
    rfl

end

/-! ## What was read -/

section

variable {fields : Fields} (proper : FieldsProper fields)

include proper

theorem Start.proper_of_read {start : Start} (reading : Start.read fields = .ok start) :
    ItemsProper start.values := by
  obtain ⟨_, address, three, addressRead, rfl⟩ := Reading.apply_eq_ok_iff.mp reading
  obtain ⟨_, amount, two, amountRead, rfl⟩ := Reading.apply_eq_ok_iff.mp three
  obtain ⟨_, token, one, tokenRead, rfl⟩ := Reading.apply_eq_ok_iff.mp two
  obtain ⟨chain, chainRead, rfl⟩ := Reading.map_eq_ok_iff.mp one
  exact ⟨staysProper_integer.required proper chainRead, isJoined_symbol token,
    staysProper_text.optional proper amountRead, staysProper_text.optional proper addressRead,
    trivial⟩

theorem Bridge.proper_of_read {bridge : Bridge} (reading : Bridge.read fields = .ok bridge) :
    ItemsProper bridge.values := by
  obtain ⟨_, token, three, tokenRead, rfl⟩ := Reading.apply_eq_ok_iff.mp reading
  obtain ⟨_, fromChain, two, fromRead, rfl⟩ := Reading.apply_eq_ok_iff.mp three
  obtain ⟨_, amount, one, amountRead, rfl⟩ := Reading.apply_eq_ok_iff.mp two
  obtain ⟨toChain, toRead, rfl⟩ := Reading.map_eq_ok_iff.mp one
  exact ⟨staysProper_integer.required proper toRead, staysProper_text.required proper amountRead,
    staysProper_integer.optional proper fromRead, staysProper_token.optional proper tokenRead,
    trivial⟩

theorem Transfer.proper_of_read {transfer : Transfer}
    (reading : Transfer.read fields = .ok transfer) : ItemsProper transfer.values := by
  obtain ⟨_, token, three, tokenRead, rfl⟩ := Reading.apply_eq_ok_iff.mp reading
  obtain ⟨_, chain, two, chainRead, rfl⟩ := Reading.apply_eq_ok_iff.mp three
  obtain ⟨_, recipient, one, recipientRead, rfl⟩ := Reading.apply_eq_ok_iff.mp two
  obtain ⟨amount, amountRead, rfl⟩ := Reading.map_eq_ok_iff.mp one
  exact ⟨staysProper_text.required proper amountRead,
    staysProper_text.required proper recipientRead, staysProper_integer.optional proper chainRead,
    staysProper_token.optional proper tokenRead, trivial⟩

theorem ContractCall.proper_of_read {call : ContractCall}
    (reading : ContractCall.read fields = .ok call) : ItemsProper call.values := by
  obtain ⟨_, parameters, five, parametersRead, rfl⟩ := Reading.apply_eq_ok_iff.mp reading
  obtain ⟨_, contract, four, contractRead, rfl⟩ := Reading.apply_eq_ok_iff.mp five
  obtain ⟨_, token, three, tokenRead, rfl⟩ := Reading.apply_eq_ok_iff.mp four
  obtain ⟨_, chain, two, chainRead, rfl⟩ := Reading.apply_eq_ok_iff.mp three
  obtain ⟨_, amount, one, amountRead, rfl⟩ := Reading.apply_eq_ok_iff.mp two
  obtain ⟨action, actionRead, rfl⟩ := Reading.map_eq_ok_iff.mp one
  exact ⟨isJoined_action action, staysProper_text.required proper amountRead,
    staysProper_integer.optional proper chainRead, staysProper_token.optional proper tokenRead,
    staysProper_text.optional proper contractRead,
    staysProper_dictionary.optional proper parametersRead, trivial⟩

theorem Finish.proper_of_read {finish : Finish} (reading : Finish.read fields = .ok finish) :
    ItemsProper finish.values := by
  obtain ⟨_, description, three, descriptionRead, rfl⟩ := Reading.apply_eq_ok_iff.mp reading
  obtain ⟨_, amount, two, amountRead, rfl⟩ := Reading.apply_eq_ok_iff.mp three
  obtain ⟨_, token, one, tokenRead, rfl⟩ := Reading.apply_eq_ok_iff.mp two
  obtain ⟨chain, chainRead, rfl⟩ := Reading.map_eq_ok_iff.mp one
  exact ⟨staysProper_integer.optional proper chainRead, staysProper_token.optional proper tokenRead,
    staysProper_text.optional proper amountRead, staysProper_text.optional proper descriptionRead,
    trivial⟩

theorem Estimate.proper_of_read {estimate : Estimate}
    (reading : Estimate.read fields = .ok estimate) : ItemsProper estimate.values := by
  obtain ⟨_, seconds, one, secondsRead, rfl⟩ := Reading.apply_eq_ok_iff.mp reading
  obtain ⟨cost, costRead, rfl⟩ := Reading.map_eq_ok_iff.mp one
  exact ⟨staysProper_text.optional proper costRead, staysProper_integer.optional proper secondsRead,
    trivial⟩

/-- A part in the flow that was read is of the kind it was read for, and its values are proper. -/
theorem Role.proper_of_read {kind : Kind} {role : Role}
    (reading : Role.read kind fields = .ok role) : role.kind = kind ∧ ItemsProper role.values := by
  cases kind with
  | start =>
      obtain ⟨own, ownRead, rfl⟩ := Reading.map_eq_ok_iff.mp reading
      exact ⟨rfl, Start.proper_of_read proper ownRead⟩
  | bridge =>
      obtain ⟨_, work, one, workRead, rfl⟩ := Reading.apply_eq_ok_iff.mp reading
      obtain ⟨estimate, estimateRead, rfl⟩ := Reading.map_eq_ok_iff.mp one
      obtain ⟨own, ownRead, rfl⟩ := Reading.map_eq_ok_iff.mp workRead
      have first := Estimate.proper_of_read proper estimateRead
      exact ⟨rfl, first.1, first.2.1, Bridge.proper_of_read proper ownRead⟩
  | transfer =>
      obtain ⟨_, work, one, workRead, rfl⟩ := Reading.apply_eq_ok_iff.mp reading
      obtain ⟨estimate, estimateRead, rfl⟩ := Reading.map_eq_ok_iff.mp one
      obtain ⟨own, ownRead, rfl⟩ := Reading.map_eq_ok_iff.mp workRead
      have first := Estimate.proper_of_read proper estimateRead
      exact ⟨rfl, first.1, first.2.1, Transfer.proper_of_read proper ownRead⟩
  | call =>
      obtain ⟨_, work, one, workRead, rfl⟩ := Reading.apply_eq_ok_iff.mp reading
      obtain ⟨estimate, estimateRead, rfl⟩ := Reading.map_eq_ok_iff.mp one
      obtain ⟨own, ownRead, rfl⟩ := Reading.map_eq_ok_iff.mp workRead
      have first := Estimate.proper_of_read proper estimateRead
      exact ⟨rfl, first.1, first.2.1, ContractCall.proper_of_read proper ownRead⟩
  | finish =>
      obtain ⟨own, ownRead, rfl⟩ := Reading.map_eq_ok_iff.mp reading
      exact ⟨rfl, Finish.proper_of_read proper ownRead⟩

end

/-! ## As a document keeps it -/

/-- A part in the flow with null for every number in a call's parameters that is not finite. -/
def Role.documented : Role → Role
  | .action (.call call) estimate =>
    .action (.call { call with parameters := call.parameters.map Json.finiteFields }) estimate
  | role => role

theorem Role.kind_documented (role : Role) : role.documented.kind = role.kind := by
  match role with
  | .start _ => rfl
  | .action (.bridge _) _ => rfl
  | .action (.transfer _) _ => rfl
  | .action (.call _) _ => rfl
  | .finish _ => rfl

theorem finite_ofOption {α : Type} {write : α → Json}
    (finite : ∀ value, (write value).finite = write value) (value : Option α) :
    (Json.ofOption write value).finite = Json.ofOption write value := by
  cases value with
  | none => rfl
  | some value => exact finite value

@[simp] theorem finite_ofString? (text : Option String) :
    (Json.ofString? text).finite = Json.ofString? text := finite_ofOption (fun _ => rfl) text

@[simp] theorem finite_ofInt? (value : Option Int) :
    (Json.ofInt? value).finite = Json.ofInt? value := finite_ofOption (fun _ => rfl) value

@[simp] theorem finite_dump? (token : Option Token) :
    (Token.dump? token).finite = Token.dump? token := finite_ofOption (fun _ => rfl) token

theorem finite_parameters (parameters : Option Fields) :
    (Json.ofOption .obj parameters).finite = Json.ofOption .obj (parameters.map Json.finiteFields) := by
  cases parameters <;> rfl

theorem Role.values_documented (role : Role) :
    role.documented.values = role.values.map Json.finite := by
  match role with
  | .start own => simp [Role.documented, Role.values, Start.values, Json.finite]
  | .action (.bridge own) estimate =>
    simp [Role.documented, Role.values, Work.values, Estimate.values, Bridge.values, Json.finite]
  | .action (.transfer own) estimate =>
    simp [Role.documented, Role.values, Work.values, Estimate.values, Transfer.values, Json.finite]
  | .action (.call own) estimate =>
    simp [Role.documented, Role.values, Work.values, Estimate.values, ContractCall.values,
      Json.finite, finite_parameters]
  | .finish own => simp [Role.documented, Role.values, Finish.values]

end ChainFlow
