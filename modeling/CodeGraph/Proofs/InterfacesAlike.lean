import CodeGraph.Interface.Http
import CodeGraph.Interface.Tool
import CodeGraph.Proofs.ArgumentForms

/-!
This file says that the two interfaces answer alike. Each tool has an address at which the same
question is asked, and where the arguments are the same, so is the envelope of the answer. Among the
envelopes that can be sent only a whole number past the range of double precision sets the two
apart. The texts in an envelope are those that UTF-8 can encode: with any other the tool would show
the envelope and the server could not send it.
-/

namespace CodeGraph

/-- An argument with its name in tool calls, its name at an address and what it has to be. -/
structure SharedArgument where
  argument : String
  parameter : String
  sort : ArgumentSort

namespace SharedArgument

/-- An argument that has one name on both sides. -/
def named (name : String) (sort : ArgumentSort) : SharedArgument := ⟨name, name, sort⟩

/-- The argument is missing on both sides, or it is given on both sides in one of its forms. -/
def IsGivenAlike (shared : SharedArgument) (arguments : List (String × Value))
    (parameters : Http.Parameters) : Prop :=
  (Value.lookup shared.argument arguments = none ∧ parameters.lookup shared.parameter = none) ∨
    ∃ value text, Value.lookup shared.argument arguments = some value ∧
      parameters.lookup shared.parameter = some text ∧ shared.sort.IsWritten value text

variable {shared : SharedArgument} {arguments : List (String × Value)}
  {parameters : Http.Parameters}

/-- A missing argument is null on both sides. -/
theorem IsGivenAlike.same (alike : shared.IsGivenAlike arguments parameters) :
    shared.sort.IsSame ((Value.lookup shared.argument arguments).getD .null)
      (Http.parameter parameters shared.parameter) := by
  unfold Http.parameter
  rcases alike with ⟨missing, absent⟩ | ⟨value, text, given, present, isWritten⟩
  · rw [missing, absent]
    exact .refl _ _
  · rw [given, present]
    exact .written isWritten

/-- An argument that is given alike can be shown, if it is in the range where it is taken as a
number. -/
theorem IsGivenAlike.canBeShown (alike : shared.IsGivenAlike arguments parameters)
    (inRange : shared.sort = .number → ∀ whole,
      Value.lookup shared.argument arguments = some (.int whole) →
        ∃ number, Value.intToBinary64 whole = .ok number) :
    ((Value.lookup shared.argument arguments).getD .null).CanBeShown := by
  rcases alike with ⟨missing, -⟩ | ⟨value, text, given, -, isWritten⟩
  · rw [missing]
    exact ⟨rfl⟩
  · rw [given]
    exact isWritten.canBeShown fun isNumber whole same => inRange isNumber whole (same ▸ given)

end SharedArgument

namespace Tool

/-- The address at which the question of a tool is asked. -/
def path : Tool → String
  | .healthCheck => "/health"
  | .graphOverview => "/graph/overview"
  | .listEntities => "/graph/entities"
  | .getEntity => "/graph/entity"
  | .searchEntities => "/graph/search"
  | .listEdges => "/graph/edges"
  | .reverseCallers => "/graph/callers"
  | .forwardCallees => "/graph/callees"
  | .blastRadius => "/graph/blast-radius"
  | .detectCycles => "/graph/cycles"
  | .complexityHotspots => "/graph/hotspots"
  | .semanticClusters => "/graph/clusters"
  | .smartContext => "/graph/smart-context"
  | .temporalCoupling => "/graph/temporal-coupling"

/-- The arguments of a tool. -/
def sharedArguments : Tool → List SharedArgument
  | .listEntities => [.named "entity_type" .text, .named "language" .text]
  | .getEntity => [.named "key" .text]
  | .searchEntities => [⟨"query", "q", .text⟩, .named "limit" .whole]
  | .reverseCallers | .forwardCallees => [.named "entity" .text]
  | .blastRadius => [.named "entity" .text, .named "hops" .whole]
  | .complexityHotspots => [.named "top" .whole]
  | .semanticClusters => [.named "threshold" .number]
  | .smartContext => [.named "focus" .text, .named "tokens" .whole, .named "max_depth" .whole]
  | .temporalCoupling =>
      [.named "entity" .text, .named "min_strength" .number, .named "min_co_changes" .whole]
  | .healthCheck | .graphOverview | .listEdges | .detectCycles => []

/-- Every argument of the tool is given alike. -/
def IsGivenAlike (tool : Tool) (arguments : List (String × Value))
    (parameters : Http.Parameters) : Prop :=
  ∀ shared ∈ tool.sharedArguments, shared.IsGivenAlike arguments parameters

/-- A missing number of hotspots is the same number on both sides. -/
theorem top_same {arguments : List (String × Value)} {parameters : Http.Parameters}
    (alike : (SharedArgument.named "top" .whole).IsGivenAlike arguments parameters) :
    ArgumentSort.whole.IsSame ((Value.lookup "top" arguments).getD Query.defaultTop)
      (Http.topParameter parameters) := by
  unfold Http.topParameter
  rcases alike with ⟨missing, absent⟩ | ⟨value, text, given, present, isWritten⟩
  · change Value.lookup "top" arguments = none at missing
    change parameters.lookup "top" = none at absent
    rw [missing, absent]
    exact .written (.whole (by decide))
  · change Value.lookup "top" arguments = some value at given
    change parameters.lookup "top" = some text at present
    rw [given, present]
    exact .written isWritten

/-- The question of a tool call is asked at the address of the tool. -/
theorem exists_query {tool : Tool} {arguments : List (String × Value)}
    {parameters : Http.Parameters} (alike : tool.IsGivenAlike arguments parameters) :
    ∃ question, Http.query? tool.path parameters = some question ∧
      (tool.query arguments).IsSame question := by
  have same (shared : SharedArgument) (member : shared ∈ tool.sharedArguments) :=
    (alike shared member).same
  cases tool with
  | healthCheck | graphOverview | listEdges | detectCycles => exact ⟨_, rfl, .refl _⟩
  | listEntities =>
      refine ⟨_, rfl, .entities (same (.named "entity_type" .text) ?_)
        (same (.named "language" .text) ?_)⟩ <;> simp [sharedArguments]
  | getEntity => exact ⟨_, rfl, .entity (same (.named "key" .text) (by simp [sharedArguments]))⟩
  | searchEntities =>
      refine ⟨_, rfl, .search (same ⟨"query", "q", .text⟩ ?_) (same (.named "limit" .whole) ?_)⟩ <;>
        simp [sharedArguments]
  | reverseCallers =>
      exact ⟨_, rfl, .callers (same (.named "entity" .text) (by simp [sharedArguments]))⟩
  | forwardCallees =>
      exact ⟨_, rfl, .callees (same (.named "entity" .text) (by simp [sharedArguments]))⟩
  | blastRadius =>
      refine ⟨_, rfl, .blastRadius (same (.named "entity" .text) ?_)
        (same (.named "hops" .whole) ?_)⟩ <;> simp [sharedArguments]
  | complexityHotspots =>
      exact ⟨_, rfl, .hotspots (top_same (alike _ (by simp [sharedArguments])))⟩
  | semanticClusters =>
      exact ⟨_, rfl, .clusters (same (.named "threshold" .number) (by simp [sharedArguments]))⟩
  | smartContext =>
      refine ⟨_, rfl, .smartContext (same (.named "focus" .text) ?_)
        (same (.named "tokens" .whole) ?_) (same (.named "max_depth" .whole) ?_)⟩ <;>
        simp [sharedArguments]
  | temporalCoupling =>
      refine ⟨_, rfl, .temporalCoupling (same (.named "entity" .text) ?_)
        (same (.named "min_strength" .number) ?_) (same (.named "min_co_changes" .whole) ?_)⟩ <;>
        simp [sharedArguments]

/-- What a tool call asks with can be named in messages, if its numbers are in range. -/
theorem canBeShown_of_given {tool : Tool} {arguments : List (String × Value)}
    {parameters : Http.Parameters} (alike : tool.IsGivenAlike arguments parameters)
    (inRange : (tool.query arguments).IsInRange) :
    ∀ value ∈ (tool.query arguments).named, value.CanBeShown := by
  have given (shared : SharedArgument) (member : shared ∈ tool.sharedArguments)
      (other : shared.sort ≠ .number) :=
    (alike shared member).canBeShown fun isNumber => absurd isNumber other
  have number {name : String} (member : .named name .number ∈ tool.sharedArguments)
      (isNumber : (Value.lookup name arguments).getD .null ∈ (tool.query arguments).numbers) :=
    (alike _ member).canBeShown fun _ whole found => inRange whole (by
      rw [show Value.lookup name arguments = some (.int whole) from found] at isNumber
      exact isNumber)
  cases tool with
  | listEntities =>
      refine List.forall_mem_cons.mpr ⟨given (.named "entity_type" .text) ?_ ?_,
        List.forall_mem_singleton.mpr (given (.named "language" .text) ?_ ?_)⟩ <;>
        simp [sharedArguments, SharedArgument.named]
  | searchEntities =>
      refine List.forall_mem_singleton.mpr (given (.named "limit" .whole) ?_ ?_) <;>
        simp [sharedArguments, SharedArgument.named]
  | blastRadius =>
      refine List.forall_mem_singleton.mpr (given (.named "hops" .whole) ?_ ?_) <;>
        simp [sharedArguments, SharedArgument.named]
  | complexityHotspots =>
      refine List.forall_mem_singleton.mpr ?_
      rcases alike (.named "top" .whole) (by simp [sharedArguments]) with
        ⟨missing, -⟩ | ⟨value, text, found, -, isWritten⟩
      · change Value.lookup "top" arguments = none at missing
        rw [missing]
        exact Value.isWritable_int (by decide +kernel) _
      · change Value.lookup "top" arguments = some value at found
        rw [found]
        exact isWritten.canBeShown (absurd · (by decide))
  | semanticClusters =>
      refine List.forall_mem_singleton.mpr (number ?_ (List.mem_singleton_self _))
      simp [sharedArguments]
  | smartContext =>
      refine List.forall_mem_cons.mpr ⟨given (.named "tokens" .whole) ?_ ?_,
        List.forall_mem_singleton.mpr (given (.named "max_depth" .whole) ?_ ?_)⟩ <;>
        simp [sharedArguments, SharedArgument.named]
  | temporalCoupling =>
      refine List.forall_mem_cons.mpr ⟨number ?_ (List.mem_singleton_self _),
        List.forall_mem_singleton.mpr (given (.named "min_co_changes" .whole) ?_ ?_)⟩ <;>
        simp [sharedArguments, SharedArgument.named]
  | _ => exact fun value member => absurd member List.not_mem_nil

end Tool

theorem FailureKind.word_injective : Function.Injective FailureKind.word := by
  intro kind other same
  cases kind <;> cases other <;> first | rfl | exact absurd same (by decide)

namespace Reply

/-- The reply is a failure of a kind. -/
def IsFailure (kind : FailureKind) (reply : Reply) : Prop :=
  ∃ message, reply = .failure kind message

end Reply

namespace HttpStatus

/-- The status that the body of an answer shows is the status of its reply. -/
theorem ofValue_toValue (envelope : Envelope) :
    ofValue envelope.toValue = .ok (ofReply envelope.reply) := by
  obtain ⟨endpoint, reply⟩ := envelope
  cases reply with
  | success data => rfl
  | failure kind message => cases kind <;> rfl

theorem ofFailure_injective : Function.Injective ofFailure := by
  intro kind other same
  cases kind <;> cases other <;> first | rfl | cases same

theorem ofFailure_ne_success (kind : FailureKind) : ofFailure kind ≠ success := by
  cases kind <;> decide

theorem ofReply_eq_success_iff (reply : Reply) :
    ofReply reply = success ↔ reply.isSuccess = true := by
  cases reply with
  | success data => exact iff_of_true rfl rfl
  | failure kind message => exact iff_of_false (ofFailure_ne_success kind) Bool.false_ne_true

theorem ofReply_eq_ofFailure_iff (reply : Reply) (kind : FailureKind) :
    ofReply reply = ofFailure kind ↔ reply.IsFailure kind := by
  cases reply with
  | success data => exact iff_of_false (ofFailure_ne_success kind).symm nofun
  | failure other message =>
      constructor
      · intro same
        exact ⟨message, ofFailure_injective same ▸ rfl⟩
      · rintro ⟨message, same⟩
        cases same
        rfl

end HttpStatus

namespace Envelope

variable {endpoint : String}

theorem showsSuccess_iff (reply : Reply) :
    (toValue ⟨endpoint, reply⟩).ShowsSuccess endpoint ↔ reply.isSuccess = true := by
  cases reply with
  | success data => exact iff_of_true (showsSuccess endpoint data) rfl
  | failure kind message =>
      refine iff_of_false ?_ Bool.false_ne_true
      rintro ⟨data, tokens, same⟩
      cases same

theorem showsFailure_iff (reply : Reply) (kind : FailureKind) :
    (toValue ⟨endpoint, reply⟩).ShowsFailure endpoint kind.word ↔ reply.IsFailure kind := by
  constructor
  · rintro ⟨message, tokens, same⟩
    cases reply with
    | success data => cases same
    | failure other given =>
        have word : other.word = kind.word := by
          simp only [toValue, Reply.payload, Value.object.injEq, List.cons.injEq, Prod.mk.injEq,
            Value.text.injEq] at same
          exact same.2.2.2.1.2.1.2
        exact ⟨given, FailureKind.word_injective word ▸ rfl⟩
  · rintro ⟨message, rfl⟩
    exact showsFailure endpoint kind message

end Envelope

/-- A tool call and a request show the same envelope, and they agree on whether it is a success. The
status of the answer tells the kinds of failures apart. -/
structure AnsweredAlike (envelope : Envelope) (result : ToolResult) (response : HttpResponse) :
    Prop where
  text : result = .answered envelope
  body : response.body = some envelope.toValue
  isError : result.isError = false ↔ response.status = 200
  success : response.status = 200 ↔ envelope.toValue.ShowsSuccess envelope.endpoint
  notFound : response.status = 404 ↔ envelope.toValue.ShowsFailure envelope.endpoint "NotFound"
  invalid :
    response.status = 400 ↔ envelope.toValue.ShowsFailure envelope.endpoint "InvalidParameter"
  storage :
    response.status = 503 ↔ envelope.toValue.ShowsFailure envelope.endpoint "StorageError"

/-- An envelope is shown alike by both interfaces. -/
theorem Envelope.answeredAlike (envelope : Envelope) :
    AnsweredAlike envelope (.answered envelope) (HttpResponse.ofEnvelope envelope) := by
  obtain ⟨endpoint, reply⟩ := envelope
  have succeeds := HttpStatus.ofReply_eq_success_iff reply
  have fails (kind : FailureKind) := (HttpStatus.ofReply_eq_ofFailure_iff reply kind).trans
    (@showsFailure_iff endpoint reply kind).symm
  exact {
    text := rfl
    body := rfl
    isError := (iff_of_eq (Bool.not_eq_false' _)).trans succeeds.symm
    success := succeeds.trans (showsSuccess_iff reply).symm
    notFound := fails .notFound
    invalid := fails .invalidParameter
    storage := fails .storage }

theorem Tool.ofName?_name (tool : Tool) : ofName? tool.name = some tool := by
  cases tool <;> rfl

namespace ToolResult

variable {service : Service} {tool : Tool} {arguments : List (String × Value)}

theorem ofName_name : ofName service tool.name arguments = ofCall service tool arguments := by
  unfold ofName
  rw [tool.ofName?_name]

theorem ofName_of_answer {envelope : Envelope}
    (answered : service.answer room (tool.query arguments) = .ok envelope) :
    ofName service tool.name arguments = .answered envelope := by
  rw [ofName_name]
  unfold ofCall
  rw [answered]

/-- A defect is told without an envelope. -/
theorem ofName_of_defect {cause : Defect}
    (crashed : service.content (tool.query arguments) = crash cause) (envelope : Envelope) :
    ofName service tool.name arguments ≠ .answered envelope := by
  have unanswered : service.answer room (tool.query arguments) = crash cause := by
    unfold Service.answer
    rw [crashed]
    rfl
  rw [ofName_name]
  unfold ofCall
  rw [unanswered]
  exact nofun

end ToolResult

/-- An answer with digits in all its numbers is sent as it is, if its envelope can be written. -/
theorem Http.answer_of_answer {service : Service} {query : Query} {envelope : Envelope}
    (answered : service.answer room query = .ok envelope)
    (finite : ∀ answer, service.content query = .ok answer → answer.isFinite = true)
    (fits : envelope.toValue.IsWritable room) :
    Http.answer service query = HttpResponse.ofEnvelope envelope := by
  have writable : isWritable (service.content query) = true := by
    cases content : service.content query with
    | ok answer => exact finite answer content
    | error fault => rfl
  unfold Http.answer
  rw [answered]
  dsimp only
  unfold send
  rw [writable, fits.defectless]
  rfl

/-- The reply to a question, before it is put into an envelope. -/
inductive Service.Replies (service : Service) (query : Query) : Reply → Prop where
  | success {answer : Answer} (found : service.content query = .ok answer) :
      Replies service query (.success answer.toValue)
  | failure {fault : Fault} {kind : FailureKind} (failed : service.content query = .error fault)
      (isKind : FailureKind.ofFault? fault = some kind) :
      Replies service query (.failure kind fault.message)

/-- What can be written inside an envelope can be written on its own. -/
theorem Envelope.isWritable_of_success {endpoint : String} {data : Value} {levels : Nat}
    (fits : (toValue ⟨endpoint, .success data⟩).IsWritable levels) : data.IsWritable levels :=
  ((Value.isWritable_object_iff.mp fits).2 ("data", data) (by simp)).mono _ (Nat.sub_le _ _)

/-- A reply that can be sent is answered, the same wherever the call comes from that has at least as
many levels. -/
theorem Service.exists_answer {service : Service} {query : Query} {levels : Nat}
    (answerable : FailsWithin Fault.IsAnswerable (service.content query))
    (fits : ∀ reply, service.Replies query reply →
      (Envelope.toValue ⟨query.endpoint, reply⟩).IsWritable levels) :
    ∃ envelope, envelope.toValue.IsWritable levels ∧
      ∀ room, levels ≤ room → service.answer room query = .ok envelope := by
  cases content : service.content query with
  | ok answer =>
      have writable := fits _ (.success content)
      refine ⟨_, writable, fun room larger => ?_⟩
      unfold Service.answer
      rw [content]
      exact Envelope.ofOutcome_of_isWritable
        ((Envelope.isWritable_of_success writable).mono room larger)
  | error fault =>
      obtain ⟨kind, isKind⟩ := FailureKind.exists_ofFault (answerable fault content)
      refine ⟨_, fits _ (.failure content isKind), fun room _ => ?_⟩
      unfold Service.answer Envelope.ofOutcome
      rw [content]
      dsimp only [Except.map]
      rw [isKind]

namespace Service

variable {service : Service} {tool : Tool} {arguments : List (String × Value)}
  {parameters : Http.Parameters}

/-- A tool call and a request with the same arguments show the same envelope, if all numbers in it
have digits and it does not nest more deeply than the server can write. The one exception is a whole
number past the range of double precision where a snapshot is served: the tool call then shows no
envelope at all. -/
theorem interfaces_alike (typed : service.config.IsTyped) (settings : service.config.CanBeShown)
    (built : ∀ snapshot, service.manager.served = some snapshot →
      ∃ setting feed manager, Manager.build setting feed manager = .ok snapshot)
    (alike : tool.IsGivenAlike arguments parameters)
    (finite : ∀ answer, service.content (tool.query arguments) = .ok answer →
      answer.isFinite = true)
    (fits : ∀ reply, service.Replies (tool.query arguments) reply →
      (Envelope.toValue ⟨(tool.query arguments).endpoint, reply⟩).IsWritable Http.room) :
    ∃ response, Http.respond? service tool.path parameters = some response ∧
      ((∃ envelope,
        AnsweredAlike envelope (ToolResult.ofName service tool.name arguments) response) ↔
        service.manager.served = none ∨ (tool.query arguments).IsInRange) := by
  have texts (snapshot : Snapshot) (served : service.manager.served = some snapshot) :
      snapshot.HasTexts := by
    obtain ⟨setting, feed, manager, made⟩ := built snapshot served
    exact Manager.build_hasTexts made
  obtain ⟨question, asked, same⟩ := tool.exists_query alike
  refine ⟨Http.answer service question, congrArg (Option.map _) asked, ?_⟩
  constructor
  · rintro ⟨envelope, shown⟩
    cases served : service.manager.served with
    | none => exact .inl rfl
    | some snapshot =>
        refine .inr (by_contra fun beyond => ?_)
        have crashed := content_of_not_isInRange served beyond
        exact ToolResult.ofName_of_defect crashed envelope shown.text
  · intro within
    have content := content_alike same within
    have answerable := (content_isAnswerable_iff typed settings texts
      (Tool.canBeShown_of_given alike)).mpr within
    obtain ⟨envelope, writable, answered⟩ := exists_answer answerable fits
    have requested : service.answer Http.room question = .ok envelope := by
      rw [← answered Http.room le_rfl]
      unfold answer
      rw [content, same.endpoint]
    rw [ToolResult.ofName_of_answer (answered ToolResult.room (by decide)),
      Http.answer_of_answer requested (by rw [content]; exact finite) writable]
    exact ⟨envelope, envelope.answeredAlike⟩

theorem finite_of_isWritable {content : Outcome Answer} (writable : Http.isWritable content = true)
    (answer : Answer) (given : content = .ok answer) : answer.isFinite = true := by
  rw [given] at writable
  exact writable

/-- The envelope of the reply can be sent. -/
def repliesFit (service : Service) (query : Query) : Bool :=
  let fits (reply : Reply) : Bool :=
    ((Envelope.toValue ⟨query.endpoint, reply⟩).writeDefect? Http.room).isNone
  match service.content query with
  | .ok answer => fits (.success answer.toValue)
  | .error fault =>
      (FailureKind.ofFault? fault).all fun kind => fits (.failure kind fault.message)

theorem isWritable_of_repliesFit {query : Query} (fits : repliesFit service query = true)
    (reply : Reply) (replies : service.Replies query reply) :
    (Envelope.toValue ⟨query.endpoint, reply⟩).IsWritable Http.room := by
  unfold repliesFit at fits
  cases replies with
  | success found =>
      rw [found] at fits
      exact ⟨Option.isNone_iff_eq_none.mp fits⟩
  | failure failed isKind =>
      rw [failed] at fits
      dsimp only at fits
      rw [isKind, Option.all_some] at fits
      exact ⟨Option.isNone_iff_eq_none.mp fits⟩

/-- The clusters at the threshold one, a whole number to the tool and a text in a request. -/
theorem interfaces_alike_threshold :
    ∃ snapshot response, (∃ setting feed manager,
        Manager.build setting feed manager = .ok snapshot) ∧
      Tool.semanticClusters.IsGivenAlike [("threshold", .int 1)] [("threshold", "1")] ∧
      Http.respond? (plain (some snapshot)) "/graph/clusters" [("threshold", "1")] =
        some response ∧
      ∃ envelope, AnsweredAlike envelope
        (ToolResult.ofName (plain (some snapshot)) "semantic_clusters" [("threshold", .int 1)])
        response := by
  obtain ⟨snapshot, built, checked⟩ := @Outcome.exists_of_any _ oneEntityBuilt
    (fun snapshot => Http.isWritable ((plain (some snapshot)).content (.clusters (.int 1))) &&
      repliesFit (plain (some snapshot)) (.clusters (.int 1))) (by decide +kernel)
  obtain ⟨writable, fits⟩ := Bool.and_eq_true_iff.mp checked
  have text : Decimal.integerText 1 = "1" := by decide +kernel
  have alike : Tool.semanticClusters.IsGivenAlike [("threshold", .int 1)] [("threshold", "1")] := by
    intro shared member
    rw [List.mem_singleton.mp member]
    exact .inr ⟨_, _, rfl, rfl, text ▸ .integer 1⟩
  have inRange : (Query.clusters (.int 1)).IsInRange := by
    intro whole member
    rw [Value.int.inj (List.mem_singleton.mp member)]
    exact Outcome.exists_ok (by decide +kernel)
  have served (other : Snapshot) (same : (plain (some snapshot)).manager.served = some other) :
      ∃ setting feed manager, Manager.build setting feed manager = .ok other :=
    ⟨_, _, _, built.trans (congrArg Except.ok (Option.some.inj same))⟩
  obtain ⟨response, responded, shown⟩ := interfaces_alike (plain_isTyped _) (plain_canBeShown _)
    served alike (finite_of_isWritable writable) (isWritable_of_repliesFit fits)
  exact ⟨snapshot, response, ⟨_, _, _, built⟩, alike, responded, shown.mpr (.inr inRange)⟩

/-- At the threshold of ten to the four hundredth the tool shows no envelope, though the number and
its text are given alike. -/
theorem exists_interfaces_apart :
    ∃ snapshot, (∃ setting feed manager, Manager.build setting feed manager = .ok snapshot) ∧
      Tool.semanticClusters.IsGivenAlike [("threshold", .int (10 ^ 400))]
        [("threshold", Decimal.integerText (10 ^ 400))] ∧
      (∀ answer, (plain (some snapshot)).content (.clusters (.int (10 ^ 400))) = .ok answer →
        answer.isFinite = true) ∧
      ∀ response envelope, ¬AnsweredAlike envelope (ToolResult.ofName (plain (some snapshot))
        "semantic_clusters" [("threshold", .int (10 ^ 400))]) response := by
  have succeeds : oneEntityBuilt.toOption.isSome = true := by decide +kernel
  obtain ⟨snapshot, built⟩ := Outcome.exists_ok succeeds
  have alike : Tool.semanticClusters.IsGivenAlike [("threshold", .int (10 ^ 400))]
      [("threshold", Decimal.integerText (10 ^ 400))] := by
    intro shared member
    rw [List.mem_singleton.mp member]
    exact .inr ⟨_, _, rfl, rfl, .integer (10 ^ 400)⟩
  have beyond : ¬(Query.clusters (.int (10 ^ 400))).IsInRange := by
    intro inRange
    obtain ⟨number, made⟩ := inRange (10 ^ 400) (List.mem_singleton_self _)
    have fails : (Value.intToBinary64 (10 ^ 400)).toOption.isSome = false := by decide +kernel
    rw [made] at fails
    cases fails
  have served : (plain (some snapshot)).manager.served = some snapshot := rfl
  have crashed := content_of_not_isInRange served beyond
  refine ⟨snapshot, ⟨_, _, _, built⟩, alike, ?_, ?_⟩
  · intro answer given
    cases crashed.symm.trans given
  · intro response envelope shown
    have crashed : (plain (some snapshot)).content
        (Tool.semanticClusters.query [("threshold", .int (10 ^ 400))]) = crash .integerTooLarge :=
      crashed
    exact ToolResult.ofName_of_defect crashed envelope shown.text

end Service

end CodeGraph
