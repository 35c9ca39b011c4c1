import BitProtector.Foundation.Machine
import BitProtector.Foundation.JsonWriting

/-! Logins, the middleware before the protected routes and logouts: the steps of any number of requests in any order,
with restarts of the service in between. Times are seconds. -/
namespace BitProtector.Sessions

structure Claims where
  sub : String
  exp : Nat
  iat : Nat
  deriving DecidableEq, Repr

abbrev Secret := List UInt8

/-- The `jsonwebtoken` crate: `verify` checks a signature and reads the claims, `leeway` is how long a token is taken
after its `exp`. -/
structure Jwt where
  encode : Claims → Secret → Except String String
  verify : String → Secret → Option Claims
  leeway : Nat

/-- A token that was encoded under a secret verifies under it. -/
def Jwt.RoundTrips (jwt : Jwt) (secret : Secret) : Prop :=
  ∀ claims token, jwt.encode claims secret = .ok token → jwt.verify token secret = some claims

/-! `RevokedTokens`. -/

def key (claims : Claims) : String := String.ofList (claims.sub.toList ++ ':' :: Json.showNat claims.iat)

def revoke (revoked : List String) (claims : Claims) : List String := revoked.insert (key claims)

def isRevoked (revoked : List String) (claims : Claims) : Bool := revoked.contains (key claims)

def issueToken (jwt : Jwt) (username : String) (secret : Secret) (expiresInSecs now : Nat) : Except String String :=
  jwt.encode ⟨username,now + expiresInSecs,now⟩ secret

def validateToken (jwt : Jwt) (token : String) (secret : Secret) (now : Nat) : Option Claims :=
  (jwt.verify token secret).filter (fun claims => now ≤ claims.exp + jwt.leeway)

def tokenExpiresSecs : Nat := 86400

/-- `strip_prefix("Bearer ")` of the header. -/
def bearer (authorization : Option String) : Option String :=
  authorization.bind fun header => (header.toList.dropPrefix? "Bearer ".toList).map String.ofList

inductive Endpoint
  | login (username password : String)
  | health
  | validate
  | logout
  /-- Any other path below `/api/v1`. -/
  | other
  deriving DecidableEq, Repr

/-- The routes that `JwtMiddlewareLayer` wraps. -/
def Endpoint.isProtected : Endpoint → Bool
  | .login _ _ | .health => false
  | .validate | .logout | .other => true

structure HttpRequest where
  endpoint : Endpoint
  authorization : Option String

inductive HttpResponse
  | loggedIn (token username : String) (expiresAt : Nat)
  | healthy
  | valid (username : String)
  | loggedOut
  | handled
  | unauthorized (message : String)
  | internalServerError (message : String)
  deriving DecidableEq, Repr

/-- Where a request is. -/
inductive Phase
  | idle
  | arrived (request : HttpRequest)
  /-- A login that PAM has accepted. -/
  | authenticated (username : String)
  | issued (username token : String)
  /-- The token is valid by that reading of the clock; the revocations come next. -/
  | validated (endpoint : Endpoint) (claims : Claims) (at_ : Nat)
  /-- The handler runs with these claims. -/
  | admitted (endpoint : Endpoint) (claims : Claims)
  | answered (response : HttpResponse)

/-- What has happened, for what is said about runs. -/
inductive Note
  | accepted (username : String)
  | issued (username token : String) (at_ : Nat)
  | admitted (claims : Claims) (at_ : Nat)
  | refused (claims : Claims) (at_ : Nat)
  | loggedOut (claims : Claims)
  | restarted
  deriving DecidableEq

structure Service where
  revoked : List String
  phase : Nat → Phase
  notes : List Note

inductive Label
  | arrive (i : Nat) (request : HttpRequest)
  /-- The request takes its next step, at that reading of the clock. -/
  | turn (i : Nat) (now : Nat)
  | restart

/-- The service of one secret, with what PAM answers at a time. -/
structure Config where
  jwt : Jwt
  secret : Secret
  authenticateUser : Nat → String → String → Bool

/-- The next phase of a request, the revoked keys after it and what is noted. -/
def turn (config : Config) (revoked : List String) (now : Nat) : Phase → Option (Phase × List String × List Note)
  | .idle | .answered _ => none
  | .arrived ⟨.login username password,_⟩ =>
    if config.authenticateUser now username password then some (.authenticated username,revoked,[.accepted username])
    else some (.answered (.unauthorized "Invalid credentials"),revoked,[])
  | .arrived ⟨.health,_⟩ => some (.answered .healthy,revoked,[])
  | .arrived ⟨endpoint,authorization⟩ =>
    match bearer authorization with
    | none => some (.answered (.unauthorized "Missing authorization header"),revoked,[])
    | some token =>
      match validateToken config.jwt token config.secret now with
      | none => some (.answered (.unauthorized "Invalid or expired token"),revoked,[])
      | some claims => some (.validated endpoint claims now,revoked,[])
  | .authenticated username =>
    match issueToken config.jwt username config.secret tokenExpiresSecs now with
    | .ok token => some (.issued username token,revoked,[.issued username token now])
    | .error message => some (.answered (.internalServerError message),revoked,[])
  | .issued username token => some (.answered (.loggedIn token username (now + tokenExpiresSecs)),revoked,[])
  | .validated endpoint claims at_ =>
    if isRevoked revoked claims then some (.answered (.unauthorized "Token revoked"),revoked,[.refused claims at_])
    else some (.admitted endpoint claims,revoked,[.admitted claims at_])
  | .admitted .logout claims => some (.answered .loggedOut,revoke revoked claims,[.loggedOut claims])
  | .admitted .validate claims => some (.answered (.valid claims.sub),revoked,[])
  | .admitted _ _ => some (.answered .handled,revoked,[])

def Service.with (s : Service) (i : Nat) (next : Phase × List String × List Note) : Service :=
  ⟨next.2.1,fun j => if j = i then next.1 else s.phase j,s.notes ++ next.2.2⟩

def step (config : Config) : Label → Service → Option Service
  | .arrive i request, s =>
    match s.phase i with
    | .idle => some (s.with i (.arrived request,s.revoked,[]))
    | _ => none
  | .turn i now, s => (turn config s.revoked now (s.phase i)).map (s.with i)
  -- The set of revoked keys is the process's own.
  | .restart, s => some ⟨[],fun _ => .idle,s.notes ++ [.restarted]⟩

def service (config : Config) : Machine Service Label := ⟨step config⟩

def Service.fresh : Service := ⟨[],fun _ => .idle,[]⟩

/-- Who presents a token that verifies has it from a login. -/
def Unforged (config : Config) (label : Label) (s : Service) : Prop :=
  ∀ i now request token claims, label = .turn i now → s.phase i = .arrived request →
    bearer request.authorization = some token → config.jwt.verify token config.secret = some claims →
      ∃ username at_, Note.issued username token at_ ∈ s.notes

/-! What a turn does, step by step. -/

inductive TurnOf (config : Config) (revoked : List String) (now : Nat) : Phase → Phase → List String → List Note → Prop
  | answers (phase : Phase) (response : HttpResponse) : TurnOf config revoked now phase (.answered response) revoked []
  | accepts (username password : String) (authorization : Option String) :
      TurnOf config revoked now (.arrived ⟨.login username password,authorization⟩) (.authenticated username) revoked
        [.accepted username]
  | validates {request : HttpRequest} {token : String} {claims : Claims} (presented : bearer request.authorization = some token)
      (valid : validateToken config.jwt token config.secret now = some claims) :
      TurnOf config revoked now (.arrived request) (.validated request.endpoint claims now) revoked []
  | issues {username token : String}
      (issued : issueToken config.jwt username config.secret tokenExpiresSecs now = .ok token) :
      TurnOf config revoked now (.authenticated username) (.issued username token) revoked [.issued username token now]
  | refuses {endpoint : Endpoint} {claims : Claims} {at_ : Nat} (gone : isRevoked revoked claims = true) :
      TurnOf config revoked now (.validated endpoint claims at_) (.answered (.unauthorized "Token revoked")) revoked
        [.refused claims at_]
  | admits {endpoint : Endpoint} {claims : Claims} {at_ : Nat} (kept : isRevoked revoked claims = false) :
      TurnOf config revoked now (.validated endpoint claims at_) (.admitted endpoint claims) revoked [.admitted claims at_]
  | logsOut (claims : Claims) :
      TurnOf config revoked now (.admitted .logout claims) (.answered .loggedOut) (revoke revoked claims)
        [.loggedOut claims]

variable {config : Config}

theorem turn_protected (revoked : List String) (now : Nat) {request : HttpRequest}
    (guarded : request.endpoint.isProtected = true) :
    turn config revoked now (.arrived request) =
      match bearer request.authorization with
      | none => some (.answered (.unauthorized "Missing authorization header"),revoked,[])
      | some token =>
        match validateToken config.jwt token config.secret now with
        | none => some (.answered (.unauthorized "Invalid or expired token"),revoked,[])
        | some claims => some (.validated request.endpoint claims now,revoked,[]) := by
  obtain ⟨endpoint,authorization⟩ := request
  cases endpoint <;> first | rfl | cases guarded

theorem turn_of {revoked : List String} {now : Nat} {phase : Phase} {next : Phase × List String × List Note}
    (taken : turn config revoked now phase = some next) : TurnOf config revoked now phase next.1 next.2.1 next.2.2 := by
  cases phase with
  | idle => cases taken
  | answered response => cases taken
  | issued username token =>
    cases taken
    exact .answers _ _
  | authenticated username =>
    simp only [turn] at taken
    split at taken
    · rename_i issued
      cases taken
      exact .issues issued
    · cases taken
      exact .answers _ _
  | validated endpoint claims at_ =>
    simp only [turn] at taken
    split at taken
    · rename_i gone
      cases taken
      exact .refuses gone
    · rename_i kept
      cases taken
      exact .admits (Bool.eq_false_of_not_eq_true kept)
  | admitted endpoint claims =>
    cases endpoint <;> cases taken
    all_goals first | exact .logsOut claims | exact .answers _ _
  | arrived request =>
    cases guarded : request.endpoint.isProtected with
    | true =>
      rw [turn_protected revoked now guarded] at taken
      split at taken
      · cases taken
        exact .answers _ _
      · rename_i presented
        split at taken
        · cases taken
          exact .answers _ _
        · rename_i valid
          cases taken
          exact .validates presented valid
    | false =>
      obtain ⟨endpoint,authorization⟩ := request
      cases endpoint with
      | login username password =>
        simp only [turn] at taken
        split at taken
        · cases taken
          exact .accepts _ _ _
        · cases taken
          exact .answers _ _
      | health =>
        cases taken
        exact .answers _ _
      | validate => cases guarded
      | logout => cases guarded
      | other => cases guarded

/-! What the keys of the revoked tokens tell apart. -/

theorem key_inj {a b : Claims} (same : key a = key b) : a.sub = b.sub ∧ a.iat = b.iat := by
  have digits (n : Nat) : ':' ∉ Json.showNat n := fun colon => by
    have digit := (Json.showNat_spec n).1 ':' colon
    cases digit
  have texts : a.sub.toList ++ ':' :: Json.showNat a.iat = b.sub.toList ++ ':' :: Json.showNat b.iat := by
    simpa [key] using congrArg String.toList same
  have parts : a.sub.toList = b.sub.toList ∧ Json.showNat a.iat = Json.showNat b.iat := by
    rcases List.append_eq_append_iff.mp texts with ⟨rest,longer,cut⟩ | ⟨rest,longer,cut⟩
    all_goals
      cases rest with
      | nil => simp_all
      | cons c rest =>
        obtain ⟨_,cut⟩ := List.cons.inj cut
        exact absurd (by rw [cut]; simp) (digits _)
  refine ⟨String.ext parts.1,?_⟩
  rw [← (Json.showNat_spec a.iat).2.1,parts.2,(Json.showNat_spec b.iat).2.1]

/-! What holds of every service that has run. -/

/-- The notes since the last restart, the latest first. -/
def sinceRestart (notes : List Note) : List Note := notes.reverse.takeWhile (fun note => note != .restarted)

def LoggedOut (notes : List Note) (claims : Claims) : Prop := .loggedOut claims ∈ sinceRestart notes

instance (notes : List Note) (claims : Claims) : Decidable (LoggedOut notes claims) :=
  inferInstanceAs (Decidable (_ ∈ _))

/-- The claims of a token that a login has issued. -/
def FromLogin (notes : List Note) (claims : Claims) : Prop :=
  ∃ username token at_, .issued username token at_ ∈ notes ∧ claims = ⟨username,at_ + tokenExpiresSecs,at_⟩

/-- What the notes before a note say of it. -/
def Justified (config : Config) (before : List Note) : Note → Prop
  | .issued username token at_ => .accepted username ∈ before ∧
      config.jwt.verify token config.secret = some ⟨username,at_ + tokenExpiresSecs,at_⟩
  | .admitted claims at_ => FromLogin before claims ∧ at_ ≤ claims.exp + config.jwt.leeway ∧ ¬LoggedOut before claims
  | .refused claims at_ => FromLogin before claims ∧ at_ ≤ claims.exp + config.jwt.leeway ∧ LoggedOut before claims
  | .loggedOut claims => ∃ at_, .admitted claims at_ ∈ before
  | .accepted _ | .restarted => True

/-- What the notes say of a request that has come so far. -/
def Held (config : Config) (notes : List Note) : Phase → Prop
  | .authenticated username => .accepted username ∈ notes
  | .validated _ claims at_ => FromLogin notes claims ∧ at_ ≤ claims.exp + config.jwt.leeway
  | .admitted _ claims => ∃ at_, .admitted claims at_ ∈ notes
  | .idle | .arrived _ | .issued _ _ | .answered _ => True

structure Sound (config : Config) (s : Service) : Prop where
  held : ∀ i, Held config s.notes (s.phase i)
  revoked : ∀ k, k ∈ s.revoked ↔ ∃ claims, LoggedOut s.notes claims ∧ key claims = k
  justified : ∀ before note after, s.notes = before ++ note :: after → Justified config before note

theorem loggedOut_concat {notes : List Note} {note : Note} {claims : Claims} :
    LoggedOut (notes ++ [note]) claims ↔ note ≠ .restarted ∧ (note = .loggedOut claims ∨ LoggedOut notes claims) := by
  by_cases restart : note = .restarted
  · simp [LoggedOut,sinceRestart,restart]
  · simp [LoggedOut,sinceRestart,restart,eq_comm (a := note)]

theorem FromLogin.mono {notes more : List Note} {claims : Claims} (login : FromLogin notes claims) (grown : notes ⊆ more) :
    FromLogin more claims := by
  obtain ⟨username,token,at_,issued,same⟩ := login
  exact ⟨username,token,at_,grown issued,same⟩

theorem Held.mono {notes more : List Note} {phase : Phase} (held : Held config notes phase) (grown : notes ⊆ more) :
    Held config more phase := by
  cases phase with
  | authenticated username => exact grown held
  | validated endpoint claims at_ => exact ⟨held.1.mono grown,held.2⟩
  | admitted endpoint claims =>
    obtain ⟨at_,admitted⟩ := held
    exact ⟨at_,grown admitted⟩
  | _ => trivial

theorem forall_splits_concat {α : Type} {P : List α → α → Prop} {l : List α} {a : α}
    (old : ∀ before x after, l = before ++ x :: after → P before x) (new : P l a) :
    ∀ before x after, l ++ [a] = before ++ x :: after → P before x := by
  intro before x after same
  rcases List.eq_nil_or_concat after with rfl | ⟨front,last,rfl⟩
  · obtain ⟨rfl,tail⟩ := List.append_inj' same rfl
    cases tail
    exact new
  · have split : l ++ [a] = (before ++ x :: front) ++ [last] := by simpa using same
    exact old before x front (List.append_inj' split rfl).1

namespace Sound

variable {s : Service}

theorem of_mem (sound : Sound config s) {note : Note} (member : note ∈ s.notes) :
    ∃ before, before ⊆ s.notes ∧ Justified config before note := by
  obtain ⟨before,after,same⟩ := List.append_of_mem member
  exact ⟨before,by rw [same]; simp,sound.justified before note after same⟩

theorem verifies (sound : Sound config s) {username token : String} {at_ : Nat} (issued : .issued username token at_ ∈ s.notes) :
    config.jwt.verify token config.secret = some ⟨username,at_ + tokenExpiresSecs,at_⟩ := by
  obtain ⟨_,_,_,verifies⟩ := sound.of_mem issued
  exact verifies

theorem loggedOut_fromLogin (sound : Sound config s) {claims : Claims} (gone : LoggedOut s.notes claims) :
    FromLogin s.notes claims := by
  have noted : .loggedOut claims ∈ s.notes := List.mem_reverse.mp ((List.takeWhile_sublist _).subset gone)
  obtain ⟨before,part,at_,admitted⟩ := sound.of_mem noted
  obtain ⟨earlier,front,login,_⟩ := sound.of_mem (part admitted)
  exact login.mono front

theorem isRevoked_iff (sound : Sound config s) {claims : Claims} (login : FromLogin s.notes claims) :
    isRevoked s.revoked claims = true ↔ LoggedOut s.notes claims := by
  rw [isRevoked,List.contains_iff_mem,sound.revoked]
  constructor
  · rintro ⟨other,gone,same⟩
    obtain ⟨name,time⟩ := key_inj same
    obtain ⟨_,_,_,_,mine⟩ := login
    obtain ⟨_,_,_,_,theirs⟩ := sound.loggedOut_fromLogin gone
    have equal : claims = other := by
      rw [mine,theirs] at name time
      rw [mine,theirs,Claims.mk.injEq]
      exact ⟨name.symm,congrArg (· + tokenExpiresSecs) time.symm,time.symm⟩
    rw [equal]
    exact gone
  · intro gone
    exact ⟨claims,gone,rfl⟩

theorem fresh : Sound config .fresh where
  held _ := trivial
  revoked k := by simp [Service.fresh,LoggedOut,sinceRestart]
  justified before note after same := absurd same (by simp [Service.fresh])

theorem with_quiet (sound : Sound config s) {phase : Phase} (held : Held config s.notes phase) (i : Nat) :
    Sound config (s.with i (phase,s.revoked,[])) where
  held j := by
    simp only [Service.with,List.append_nil]
    split
    · exact held
    · exact sound.held j
  revoked := by simpa [Service.with] using sound.revoked
  justified := by simpa [Service.with] using sound.justified

theorem with_note (sound : Sound config s) {phase : Phase} {revoked : List String} {note : Note}
    (held : Held config (s.notes ++ [note]) phase) (justified : Justified config s.notes note)
    (keys : ∀ k, k ∈ revoked ↔ ∃ claims, LoggedOut (s.notes ++ [note]) claims ∧ key claims = k) (i : Nat) :
    Sound config (s.with i (phase,revoked,[note])) where
  held j := by
    simp only [Service.with]
    split
    · exact held
    · exact (sound.held j).mono (List.subset_append_left _ _)
  revoked := keys
  justified := forall_splits_concat sound.justified justified

theorem keys_of_other (sound : Sound config s) {note : Note} (restart : note ≠ .restarted)
    (logout : ∀ claims, note ≠ .loggedOut claims) (k : String) :
    k ∈ s.revoked ↔ ∃ claims, LoggedOut (s.notes ++ [note]) claims ∧ key claims = k := by
  rw [sound.revoked]
  simp [loggedOut_concat,restart,logout]

theorem turn (sound : Sound config s) (trips : config.jwt.RoundTrips config.secret) {i now : Nat} {phase : Phase}
    {revoked : List String} {notes : List Note} (unforged : Unforged config (.turn i now) s)
    (taken : TurnOf config s.revoked now (s.phase i) phase revoked notes) :
    Sound config (s.with i (phase,revoked,notes)) := by
  have held := sound.held i
  generalize at_phase : s.phase i = before at taken held
  cases taken with
  | answers phase response =>
    apply sound.with_quiet
    trivial
  | accepts username password authorization =>
    refine sound.with_note ?_ ?_ (sound.keys_of_other (by simp) (by simp)) i
    · exact List.mem_append_right _ (List.mem_singleton_self _)
    · trivial
  | validates presented valid =>
    obtain ⟨verified,intime⟩ := Option.filter_eq_some_iff.mp valid
    obtain ⟨username,at_,issued⟩ := unforged i now _ _ _ rfl at_phase presented verified
    have same := Option.some.inj (verified.symm.trans (sound.verifies issued))
    apply sound.with_quiet
    exact ⟨⟨username,_,at_,issued,same⟩,of_decide_eq_true intime⟩
  | issues issued =>
    refine sound.with_note ?_ ?_ (sound.keys_of_other (by simp) (by simp)) i
    · trivial
    · exact ⟨held,trips _ _ issued⟩
  | refuses gone =>
    refine sound.with_note ?_ ?_ (sound.keys_of_other (by simp) (by simp)) i
    · trivial
    · exact ⟨held.1,held.2,(sound.isRevoked_iff held.1).mp gone⟩
  | admits kept =>
    have revoked := sound.isRevoked_iff held.1
    rw [kept] at revoked
    refine sound.with_note ?_ ?_ (sound.keys_of_other (by simp) (by simp)) i
    · exact ⟨_,List.mem_append_right _ (List.mem_singleton_self _)⟩
    · exact ⟨held.1,held.2,fun gone => Bool.false_ne_true (revoked.mpr gone)⟩
  | logsOut claims =>
    refine sound.with_note ?_ ?_ (fun k => ?_) i
    · trivial
    · exact held
    rw [revoke,List.mem_insert_iff,sound.revoked]
    constructor
    · rintro (rfl | ⟨other,gone,same⟩)
      · exact ⟨claims,loggedOut_concat.mpr ⟨by simp,.inl rfl⟩,rfl⟩
      · exact ⟨other,loggedOut_concat.mpr ⟨by simp,.inr gone⟩,same⟩
    · rintro ⟨other,gone,same⟩
      rcases (loggedOut_concat.mp gone).2 with now_ | before
      · cases now_
        exact .inl same.symm
      · exact .inr ⟨other,before,same⟩

theorem step {label : Label} {t : Service} (sound : Sound config s) (trips : config.jwt.RoundTrips config.secret)
    (unforged : Unforged config label s) (taken : Sessions.step config label s = some t) : Sound config t := by
  cases label with
  | arrive i request =>
    simp only [Sessions.step] at taken
    split at taken
    · cases taken
      apply sound.with_quiet
      trivial
    · cases taken
  | turn i now =>
    obtain ⟨next,turned,rfl⟩ := Option.map_eq_some_iff.mp taken
    exact sound.turn trips unforged (turn_of turned)
  | restart =>
    cases taken
    refine ⟨fun _ => trivial,fun k => ?_,forall_splits_concat sound.justified trivial⟩
    simp [loggedOut_concat]

theorem of_reaches (trips : config.jwt.RoundTrips config.secret)
    (reached : (service config).Reaches (Unforged config) .fresh s) : Sound config s :=
  reached.invariant fresh fun _ _ _ sound unforged taken => sound.step trips unforged taken

end Sound

/-- In every order of the steps: a token is issued after its login was accepted, and a request is admitted, or refused
as revoked, exactly by whether its token, which a login has issued and whose time is not up, was logged out since the last
restart. A token from a login is valid until its day and the leeway are over. -/
theorem sessions_exact (trips : config.jwt.RoundTrips config.secret) {s : Service}
    (reached : (service config).Reaches (Unforged config) .fresh s) :
    (∀ before note after, s.notes = before ++ note :: after → Justified config before note) ∧
    (∀ i request token username issuedAt now, s.phase i = .arrived request → request.endpoint.isProtected = true →
      bearer request.authorization = some token → .issued username token issuedAt ∈ s.notes →
        ∃ t, step config (.turn i now) s = some t ∧
          t.phase i = if now ≤ issuedAt + tokenExpiresSecs + config.jwt.leeway then
              .validated request.endpoint ⟨username,issuedAt + tokenExpiresSecs,issuedAt⟩ now
            else .answered (.unauthorized "Invalid or expired token")) ∧
    ∀ i endpoint claims at_ now, s.phase i = .validated endpoint claims at_ →
      ∃ t, step config (.turn i now) s = some t ∧
        t.phase i =
          if LoggedOut s.notes claims then .answered (.unauthorized "Token revoked") else .admitted endpoint claims := by
  have sound := Sound.of_reaches trips reached
  refine ⟨sound.justified,?_,?_⟩
  · intro i request token username issuedAt now arrived guarded presented issued
    have verified := sound.verifies issued
    have turned : turn config s.revoked now (.arrived request) = _ := turn_protected s.revoked now guarded
    rw [presented] at turned
    by_cases intime : now ≤ issuedAt + tokenExpiresSecs + config.jwt.leeway
    · have valid : validateToken config.jwt token config.secret now =
          some ⟨username,issuedAt + tokenExpiresSecs,issuedAt⟩ := by simp [validateToken,verified,intime]
      simp only [valid] at turned
      exact ⟨_,by rw [step,arrived,turned]; rfl,by simp [Service.with,intime]⟩
    · have expired : validateToken config.jwt token config.secret now = none := by
        simp only [validateToken,verified,Option.filter]
        simp [intime]
      simp only [expired] at turned
      exact ⟨_,by rw [step,arrived,turned]; rfl,by simp [Service.with,intime]⟩
  · intro i endpoint claims at_ now validated
    have held := sound.held i
    rw [validated] at held
    have revoked := sound.isRevoked_iff held.1
    by_cases gone : LoggedOut s.notes claims
    · have turned : turn config s.revoked now (.validated endpoint claims at_) =
          some (.answered (.unauthorized "Token revoked"),s.revoked,[.refused claims at_]) := by
        rw [turn,if_pos (revoked.mpr gone)]
      exact ⟨_,by rw [step,validated,turned]; rfl,by simp [Service.with,gone]⟩
    · have turned : turn config s.revoked now (.validated endpoint claims at_) =
          some (.admitted endpoint claims,s.revoked,[.admitted claims at_]) := by
        rw [turn,if_neg (mt revoked.mp gone)]
      exact ⟨_,by rw [step,validated,turned]; rfl,by simp [Service.with,gone]⟩

/-! A login, and a request with its token. -/

def adaClaims : Claims := ⟨"ada",86410,10⟩

def adaConfig : Config where
  jwt := ⟨fun claims _ => if claims = adaClaims then .ok "t" else .error "unsupported",
    fun token _ => if token = "t" then some adaClaims else none,60⟩
  secret := [7]
  authenticateUser _ username _ := username == "ada"

def adaLogin : HttpRequest := ⟨.login "ada" "secret",none⟩

def adaRequest : HttpRequest := ⟨.validate,some "Bearer t"⟩

theorem sessions_exact_ada : ∃ s : Service, s.notes = [.accepted "ada",.issued "ada" "t" 10,.admitted adaClaims 86470] ∧
    ∀ before note after, s.notes = before ++ note :: after → Justified adaConfig before note := by
  have trips : adaConfig.jwt.RoundTrips adaConfig.secret := by
    intro claims token encoded
    by_cases same : claims = adaClaims
    · simp only [adaConfig,same,if_true] at encoded ⊢
      cases encoded
      rfl
    · simp [adaConfig,same] at encoded
  have arrives {i : Nat} {request : HttpRequest} {s : Service} : Unforged adaConfig (.arrive i request) s :=
    fun _ _ _ _ _ same => nomatch same
  have later {label : Label} {s : Service} (issued : .issued "ada" "t" 10 ∈ s.notes) : Unforged adaConfig label s := by
    intro i now request token claims _ _ _ verified
    have same : token = "t" := by
      by_contra other
      simp [adaConfig,other] at verified
    exact ⟨_,_,same ▸ issued⟩
  have before {s : Service} {i now : Nat} {phase : Phase} (at_phase : s.phase i = phase)
      (none : ∀ request, phase = .arrived request → bearer request.authorization = none) :
      Unforged adaConfig (.turn i now) s := by
    intro j _ request token _ same arrived presented _
    cases same
    rw [none request (at_phase.symm.trans arrived)] at presented
    cases presented
  have nothing : ∀ request, Phase.arrived adaLogin = .arrived request → bearer request.authorization = none := by
    rintro request ⟨⟩
    rfl
  have began : (service adaConfig).Reaches (Unforged adaConfig) .fresh .fresh := .start
  have asked := began.step (.arrive 0 adaLogin) arrives rfl
  have accepted := asked.step (.turn 0 9) (before rfl nothing) rfl
  have given := accepted.step (.turn 0 10) (before rfl fun _ other => Phase.noConfusion other) rfl
  have presented := given.step (.arrive 1 adaRequest) arrives rfl
  have valid := presented.step (.turn 1 86470) (later (by simp [Service.with])) rfl
  have reached := valid.step (.turn 1 86480) (later (by simp [Service.with])) rfl
  exact ⟨_,rfl,(sessions_exact trips reached).1⟩

end BitProtector.Sessions
