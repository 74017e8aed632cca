import DocumentGate.Http.Application
import Mathlib.Data.List.Perm.Basic

/-!
# Responses that clients wait for

Each request that was received waits for the service or has its response, and has one at most.  What
a response says about the cookie is told by the request: it gives the session that was made for the
request, or it lets the cookie expire and answers a request to end a session, or it says nothing.
-/

namespace DocumentGate.Http

/-- A request that a client has sent, and the session that it was admitted to. -/
structure Sending where
  label : String
  client : Nat
  request : Request
  admission : Admission

/-- The response says about the cookie what may be said to the request. -/
inductive Response.Suits (name : String) (response : Response) (sending : Sending) : Prop where
  | silent (cookies : response.cookies = [])
  | introduces (valid : Cookie.isName name = true) (isNew : sending.admission.isNew = true)
      (cookies : response.cookies = [Cookie.setHeader name sending.admission.session])
  | clears (valid : Cookie.isName name = true)
      (ending : sending.request.destination = .route .endSession)
      (cookies : response.cookies = [Cookie.clearHeader name])

variable {name label : String} {sending : Sending} {response : Response}

/-! ## Responses -/

theorem cookies_withCookie (name header : String) (response : Response) :
    (response.withCookie name header).cookies = [] ∨
      Cookie.isName name = true ∧ (response.withCookie name header).cookies = [header] := by
  unfold Response.withCookie
  split
  · rename_i valid
    exact Or.inr ⟨valid, rfl⟩
  · exact Or.inl rfl

theorem suits_introduce (name : String) (sending : Sending) (silent : response.cookies = []) :
    (sending.admission.introduce name response).Suits name sending := by
  unfold Admission.introduce
  split
  · rename_i introduced
    rcases cookies_withCookie name (Cookie.setHeader name sending.admission.session) response with
      none | ⟨valid, set⟩
    · exact .silent none
    · exact .introduces valid (Bool.and_eq_true_iff.mp introduced).1 set
  · exact .silent silent

theorem cookies_ofServiceFault (fault : Service.Fault) :
    (Response.ofServiceFault fault).cookies = [] := by
  unfold Response.ofServiceFault
  split <;> rfl

theorem cookies_ofValue (value : Json) : (Response.ofValue value).cookies = [] := by
  unfold Response.ofValue
  split <;> rfl

theorem cookies_ofBodyFault (fault : BodyFault) : (Response.ofBodyFault fault).cookies = [] := by
  unfold Response.ofBodyFault
  split <;> rfl

theorem suits_respond {route : Route} (led : sending.request.destination = .route route)
    (name : String) (answer : Service.Answer) :
    (Exchange.respond ⟨route, sending.admission⟩ name answer).Suits name sending := by
  unfold Exchange.respond
  split
  · rename_i fault answered
    exact suits_introduce name sending (cookies_ofServiceFault fault)
  · rename_i content answered
    dsimp only
    split
    · rcases cookies_withCookie name (Cookie.clearHeader name) (.ofValue content) with
        none | ⟨valid, cleared⟩
      · exact .silent none
      · exact .clears valid led cleared
    · exact suits_introduce name sending (cookies_ofValue content)

namespace Application

variable {application : Application} {sent : List Sending} {heard : List String}

/-- What delivering an answer keeps holds when all were delivered. -/
theorem holds_collect {holds : Application → Prop}
    (start : holds { application with machine := { application.machine with answers := [] } })
    (delivers : ∀ {application : Application} label answer, holds application →
      holds (application.deliver label answer)) :
    holds application.collect :=
  List.foldlRecOn _ _ start fun _ before given _ => delivers given.1 given.2 before

/-- A request that waits is one that was sent and not answered yet. -/
structure Expects (sent : List Sending) (heard : List String)
    (responses : List (String × Response)) (label : String) (exchange : Exchange) : Prop where
  sending : ∃ sending ∈ sent, sending.label = label ∧
    sending.request.destination = .route exchange.route ∧ sending.admission = exchange.admission
  unheard : label ∉ heard
  unanswered : ∀ given ∈ responses, given.1 ≠ label

/-- Requests wait until they are answered, and are answered once. -/
structure Awaits (sent : List Sending) (heard : List String) (application : Application) :
    Prop where
  exchanges : ∀ label exchange, Dictionary.get? label application.exchanges = some exchange →
    Expects sent heard application.responses label exchange
  responses : ∀ given ∈ application.responses,
    (∃ sending ∈ sent, sending.label = given.1 ∧
      given.2.Suits application.cookieName sending) ∧ given.1 ∉ heard
  once : (application.responses.map Prod.fst).Nodup

namespace Awaits

/-- A response is given to a request that waits for none and has none. -/
theorem reply (awaits : application.Awaits sent heard)
    (free : Dictionary.get? label application.exchanges = none)
    (unanswered : ∀ given ∈ application.responses, given.1 ≠ label) (unheard : label ∉ heard)
    (member : sending ∈ sent) (own : sending.label = label)
    (suits : response.Suits application.cookieName sending) :
    (application.reply label response).Awaits sent heard where
  exchanges other exchange waits := by
    have expects := awaits.exchanges other exchange waits
    refine ⟨expects.sending, expects.unheard, fun given among same => ?_⟩
    rcases List.mem_append.mp among with before | now
    · exact expects.unanswered given before same
    · rw [List.mem_singleton.mp now] at same
      subst same
      have waiting : Dictionary.get? label application.exchanges = some exchange := waits
      rw [free] at waiting
      cases waiting
  responses given among := by
    rcases List.mem_append.mp among with before | now
    · exact awaits.responses given before
    · rw [List.mem_singleton.mp now]
      exact ⟨⟨sending, member, own, suits⟩, unheard⟩
  once := by
    change ((application.responses ++ [(label, response)]).map Prod.fst).Nodup
    rw [List.map_append, List.nodup_append]
    refine ⟨awaits.once, by simp, ?_⟩
    intro other among given now same
    rcases List.mem_map.mp among with ⟨before, earlier, rfl⟩
    exact unanswered before earlier (same.trans (by simpa using now))

/-- An answer of the service becomes the response of the request that waits for it. -/
theorem deliver (awaits : application.Awaits sent heard) (label : String)
    (answer : Service.Answer) : (application.deliver label answer).Awaits sent heard := by
  unfold Application.deliver
  split
  · rename_i exchange waits
    have expects := awaits.exchanges label exchange waits
    rcases expects.sending with ⟨sending, member, own, led, admitted⟩
    have erased (other : String) :
        Dictionary.get? other (Dictionary.erase label application.exchanges) =
          if label = other then none else Dictionary.get? other application.exchanges :=
      Dictionary.get?_erase label other application.exchanges
    have remaining : { application with
        exchanges := Dictionary.erase label application.exchanges }.Awaits sent heard := by
      refine ⟨fun other exchange waits => ?_, awaits.responses, awaits.once⟩
      have waiting := (erased other).symm.trans waits
      split at waiting
      · cases waiting
      · exact awaits.exchanges other exchange waiting
    refine remaining.reply ((erased label).trans (if_pos rfl)) expects.unanswered expects.unheard
      member own ?_
    have suits := suits_respond led application.cookieName answer
    rw [admitted] at suits
    exact suits
  · exact awaits

/-- The service goes on. -/
theorem operate (awaits : application.Awaits sent heard) {machine : Service.Machine}
    (settings : machine.world.settings = application.machine.world.settings) :
    { application with machine := machine }.Awaits sent heard where
  exchanges := awaits.exchanges
  responses given among := by
    have named : { application with machine := machine }.cookieName = application.cookieName :=
      congrArg Settings.sessionCookie settings
    rw [named]
    exact awaits.responses given among
  once := awaits.once

theorem collect (awaits : application.Awaits sent heard) :
    application.collect.Awaits sent heard :=
  holds_collect (awaits.operate rfl) fun label answer awaits => awaits.deliver label answer

/-! ## Requests -/

theorem mono (awaits : application.Awaits sent heard) (sending : Sending) :
    application.Awaits (sent ++ [sending]) heard where
  exchanges other exchange waits := by
    have expects := awaits.exchanges other exchange waits
    rcases expects.sending with ⟨earlier, member, own⟩
    exact ⟨⟨earlier, List.mem_append_left _ member, own⟩, expects.unheard, expects.unanswered⟩
  responses given among := by
    rcases awaits.responses given among with ⟨⟨earlier, member, own⟩, unheard⟩
    exact ⟨⟨earlier, List.mem_append_left _ member, own⟩, unheard⟩
  once := awaits.once

end Awaits

/-- A session that is made is all that admitting a request changes. -/
theorem identify_snd (application : Application) (request : Request) :
    (application.identify request).2 =
      { application with issued := (application.identify request).2.issued } := by
  unfold identify
  split
  · split <;> rfl
  · rfl

theorem Awaits.admit (awaits : application.Awaits sent heard) (request : Request) :
    (application.identify request).2.Awaits sent heard := by
  rw [identify_snd]
  exact ⟨awaits.exchanges, awaits.responses, awaits.once⟩

/-- A request that is received waits for the service, or is answered at once. -/
theorem Awaits.receive (awaits : application.Awaits sent heard)
    (fresh : ∀ sending ∈ sent, sending.label ≠ label) (unheard : label ∉ heard) (client : Nat)
    (request : Request) :
    (application.receive label request).Awaits
      (sent ++ [⟨label, client, request, (application.identify request).1⟩]) heard := by
  have admitted := awaits.admit request
  unfold Application.receive
  generalize application.identify request = identified at admitted ⊢
  rcases identified with ⟨admission, admitting⟩
  dsimp only at admitted ⊢
  have free : Dictionary.get? label admitting.exchanges = none := by
    by_contra waiting
    rcases Option.ne_none_iff_exists'.mp waiting with ⟨exchange, waits⟩
    rcases (admitted.exchanges label exchange waits).sending with ⟨earlier, member, own, -⟩
    exact fresh earlier member own
  have unanswered : ∀ given ∈ admitting.responses, given.1 ≠ label := by
    rintro given among rfl
    rcases (admitted.responses given among).1 with ⟨earlier, member, own, -⟩
    exact fresh earlier member own
  have member := List.mem_append_right sent
    (List.mem_singleton_self (Sending.mk label client request admission))
  have grown := admitted.mono ⟨label, client, request, admission⟩
  have replies {response : Response} (silent : response.cookies = []) :
      (admitting.replyAtOnce label admission response).Awaits
        (sent ++ [⟨label, client, request, admission⟩]) heard :=
    grown.reply free unanswered unheard member rfl
      (suits_introduce _ ⟨label, client, request, admission⟩ silent)
  split
  · exact replies rfl
  · exact replies rfl
  · exact replies rfl
  · rename_i route led
    split
    · exact replies (cookies_ofBodyFault _)
    · rename_i asked _
      have waiting (other : String) :
          Dictionary.get? other (Dictionary.insert label ⟨route, admission⟩ admitting.exchanges) =
            if label = other then some ⟨route, admission⟩
            else Dictionary.get? other admitting.exchanges :=
        Dictionary.get?_insert label other _ admitting.exchanges
      refine ⟨fun other exchange waits => ?_, grown.responses, grown.once⟩
      replace waits := (waiting other).symm.trans waits
      split at waits
      · rename_i same
        subst same
        obtain rfl := Option.some.inj waits
        exact ⟨⟨_, member, rfl, led, rfl⟩, unheard, unanswered⟩
      · exact grown.exchanges other exchange waits

/-! ## What clients get -/

/-- A response that a client has got was the only one, and does not come again. -/
theorem Awaits.hear (awaits : application.Awaits sent heard) {position : Nat}
    (given : application.responses[position]? = some (label, response)) :
    { application with responses := application.responses.eraseIdx position }.Awaits sent
      (heard ++ [label]) := by
  rcases List.getElem?_eq_some_iff.mp given with ⟨inside, here⟩
  have split := List.getElem_cons_eraseIdx_perm inside
  rw [here] at split
  have once := (split.map Prod.fst).nodup_iff.mpr awaits.once
  rw [List.map_cons, List.nodup_cons] at once
  have still {other : String × Response}
      (among : other ∈ application.responses.eraseIdx position) : other ∈ application.responses :=
    List.mem_of_mem_eraseIdx among
  refine ⟨fun other exchange waits => ?_, fun other among => ?_, once.2⟩
  · have expects := awaits.exchanges other exchange waits
    refine ⟨expects.sending, ?_, fun earlier among => expects.unanswered earlier (still among)⟩
    rw [List.mem_append, not_or, List.mem_singleton]
    refine ⟨expects.unheard, ?_⟩
    rintro rfl
    exact expects.unanswered _ (List.mem_of_getElem? given) rfl
  · rcases awaits.responses other (still among) with ⟨sending, unheard⟩
    refine ⟨sending, ?_⟩
    rw [List.mem_append, not_or, List.mem_singleton]
    refine ⟨unheard, fun same => once.1 ?_⟩
    have left : other.1 ∈ (application.responses.eraseIdx position).map Prod.fst :=
      List.mem_map_of_mem among
    exact same ▸ left

end Application
end DocumentGate.Http
