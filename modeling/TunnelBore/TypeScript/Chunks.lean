import TunnelBore.TypeScript.NewTunnel

namespace TunnelBore.TypeScript

/-!
# Bodies that come in several data events

The publisher asks the authority for two things, a token for itself and the signature of a tunnel.
Both listeners take each data event for the whole body.

* `Authentication` — the listener for the token of the publisher;
* `reads_bodies_iff` — both requests read the whole body exactly when it comes in one data event.
-/

/-- The authentication request of the constructor of `Publisher`. -/
structure Authentication where
  authToken : Bytes := []
  /-- The tokens that `connect` was called with. -/
  connects : List Bytes := []
  /-- The process has ended. -/
  ended : Bool := false
  deriving DecidableEq, Repr

namespace Authentication

/-- The listener for data. -/
def onData (a : Authentication) (token : Bytes) : Authentication :=
  { a with authToken := token, connects := a.connects ++ [token] }

/-- The callbacks of the request. -/
def authenticate : Authority → Authentication
  | .error                            => { ended := true }
  | .response statusCode chunks fails =>
    if statusCode ≠ 200 then { ended := true }
    else
      let a := chunks.foldl onData {}
      if fails then { a with ended := true } else a

/-- Every data event is stored in place of the one before, and makes a connection. -/
theorem foldl_onData (a : Authentication) (chunks : List Bytes) :
    chunks.foldl onData a =
      { a with
        authToken := chunks.getLast?.getD a.authToken
        connects := a.connects ++ chunks } := by
  induction chunks generalizing a with
  | nil => simp
  | cons chunk chunks ih =>
    rw [List.foldl_cons, ih]
    simp [onData, List.getLast?_cons]

/-- The whole body is stored, and `connect` is called once. -/
def Whole (chunks : List Bytes) : Prop :=
  (authenticate (.response 200 chunks false)).authToken = chunks.flatten ∧
    ∃ token, (authenticate (.response 200 chunks false)).connects = [token]

theorem whole_iff (chunks : List Bytes) : Whole chunks ↔ chunks.length = 1 := by
  have hrun : authenticate (.response 200 chunks false) = chunks.foldl onData {} := by
    simp [authenticate]
  unfold Whole
  rw [hrun, foldl_onData, List.length_eq_one_iff]
  constructor
  · rintro ⟨-, token, hconnects⟩
    exact ⟨token, hconnects⟩
  · rintro ⟨token, rfl⟩
    exact ⟨by simp, token, rfl⟩

end Authentication

namespace NewTunnelRun

variable (parse : Bytes → Option Json) (keyOf : Json → Option String) (services : Services)
variable (brokerHost : String) (message : NewTunnelMessage)

/-- The whole body is parsed, and one session is made, with its token. -/
def Whole (chunks : List Bytes) : Prop :=
  let r := newTunnel parse keyOf services brokerHost message none (.response 200 chunks false)
  r.parsed = [chunks.flatten] ∧ ∃ token session, tokenText parse keyOf chunks.flatten = some token ∧
    r.sessions = [session] ∧ session.token = p2bTunnelPrefix ++ ":" ++ token

/-- The port of the message names a service for which sessions can be made. -/
def Served : Prop :=
  ∃ key service, textOf keyOf message.hiddenPort = some key ∧
    serviceAt services key = .own service ∧ service.Serviceable

variable {parse keyOf services brokerHost message} {key : String}

/-- The listener for data parses what it is called with, unless the process has ended. -/
theorem onData_parsed (r : NewTunnelRun) (tokenJson : Bytes) :
    (onData parse keyOf services key brokerHost r tokenJson).parsed =
      r.parsed ++ if r.ended then [] else [tokenJson] := by
  unfold onData
  split
  · simp
  · simp only
    split
    · rfl
    · split
      · split <;> rfl
      · rfl

/-- What was parsed stays on record. -/
theorem parsed_length_le (r : NewTunnelRun) (chunks : List Bytes) :
    r.parsed.length ≤
      (chunks.foldl (onData parse keyOf services key brokerHost) r).parsed.length := by
  induction chunks generalizing r with
  | nil => exact le_rfl
  | cons chunk chunks ih =>
    refine le_trans ?_ (ih _)
    rw [onData_parsed, List.length_append]
    omega

/-- One data event for a service that can be served. -/
theorem whole_singleton (hserved : Served keyOf services message) {chunk : Bytes}
    (htoken : tokenText parse keyOf chunk ≠ none) :
    Whole parse keyOf services brokerHost message [chunk] := by
  obtain ⟨key, service, hkey, hservice, hserviceable⟩ := hserved
  obtain ⟨token, htoken⟩ := Option.ne_none_iff_exists'.mp htoken
  have hmade : (service.createSession brokerHost token).isSome = true :=
    createSession_isSome.mpr hserviceable
  obtain ⟨session, hsession⟩ := Option.isSome_iff_exists.mp hmade
  unfold Whole
  rw [newTunnel_response hkey, List.foldl_cons, List.foldl_nil, List.flatten_singleton,
    onData_own hservice rfl, madeOf, htoken, Option.bind_some, hsession]
  exact ⟨rfl, token, session, rfl, rfl, (createSession_spec hsession).2.2.1⟩

/-- After a data event that makes a session, the next one is parsed by itself. -/
theorem parsed_second {service : LocalService} (hservice : serviceAt services key = .own service)
    {r : NewTunnelRun} (hr : r.ended = false) {chunk : Bytes}
    (hmade : (madeOf parse keyOf service brokerHost chunk).isSome = true) (next : Bytes)
    (rest : List Bytes) :
    2 ≤ ((chunk :: next :: rest).foldl (onData parse keyOf services key brokerHost) r).parsed.length
      := by
  obtain ⟨session, hsession⟩ := Option.isSome_iff_exists.mp hmade
  rw [List.foldl_cons, List.foldl_cons, onData_own hservice hr, hsession]
  refine le_trans ?_ (parsed_length_le _ rest)
  rw [onData_parsed]
  simp [hr]

/-- **The sign-json request** reads a body in one data event, and no other. -/
theorem whole_iff (chunks : List Bytes) :
    Whole parse keyOf services brokerHost message chunks ↔
      chunks.length = 1 ∧ Served keyOf services message ∧
        tokenText parse keyOf chunks.flatten ≠ none := by
  constructor
  · rintro ⟨hparsed, token, session, htoken, hsessions, -⟩
    cases hkey : textOf keyOf message.hiddenPort with
    | none => simp [newTunnel, start, hkey] at hparsed
    | some key =>
      rw [newTunnel_response hkey] at hparsed hsessions
      by_cases hfound : ∃ service, serviceAt services key = .own service
      · obtain ⟨service, hservice⟩ := hfound
        rw [(foldl_onData_own hservice chunks rfl).2] at hsessions
        obtain ⟨chunk, rest, rfl, hmade, -⟩ := sessionsOf_eq_singleton.mp ⟨session, hsessions⟩
        obtain ⟨-, hserviceable⟩ := madeOf_isSome.mp hmade
        refine ⟨?_, ⟨key, service, hkey, hservice, hserviceable⟩,
          Option.ne_none_iff_exists'.mpr ⟨token, htoken⟩⟩
        cases rest with
        | nil => rfl
        | cons next rest =>
          have hlength : 2 ≤ [(chunk :: next :: rest).flatten].length := by
            rw [← hparsed]
            exact parsed_second hservice rfl hmade next rest
          exact absurd hlength (by simp)
      · have hnone : ∀ service, serviceAt services key ≠ .own service := not_exists.mp hfound
        rw [(foldl_onData_missing parse keyOf brokerHost hnone rfl chunks).1] at hsessions
        cases hsessions
  · rintro ⟨hlength, hserved, htoken⟩
    obtain ⟨chunk, rfl⟩ := List.length_eq_one_iff.mp hlength
    rw [List.flatten_singleton] at htoken
    exact whole_singleton hserved htoken

end NewTunnelRun

variable (parse : Bytes → Option Json) (keyOf : Json → Option String) (services : Services)
variable (brokerHost : String) (message : NewTunnelMessage)

/-- Both requests read the whole body. -/
def ReadsBodies (tokenChunks signChunks : List Bytes) : Prop :=
  Authentication.Whole tokenChunks ∧
    NewTunnelRun.Whole parse keyOf services brokerHost message signChunks

/-- **Bodies are read as a whole exactly when each comes in one data event**, that of the signature
    with a token and for a service that sessions can be made for. -/
theorem reads_bodies_iff (tokenChunks signChunks : List Bytes) :
    ReadsBodies parse keyOf services brokerHost message tokenChunks signChunks ↔
      (tokenChunks.length = 1 ∧ signChunks.length = 1) ∧
        NewTunnelRun.Served keyOf services message ∧
        tokenText parse keyOf signChunks.flatten ≠ none := by
  unfold ReadsBodies
  rw [Authentication.whole_iff, NewTunnelRun.whole_iff, and_assoc]

/-- Two data events each, for a service that is served and a body with a token: the last part of
    the token is stored, and the process ends on the first part of the other body. -/
theorem reads_bodies_split :
    let services := (Config.mk "pub" [⟨some "ssh", "tcp", 8022, 22, none⟩]).makeServices
    let message : NewTunnelMessage := ⟨some (.string "s"), some (.string "c"),
      some (.number 8022), some (.number 22), some (.string "tcp")⟩
    let tokenChunks := [asciiString "ab", asciiString "c"]
    let signChunks := [signedJson.take 5, signedJson.drop 5]
    signChunks.flatten = signedJson ∧
      ¬ReadsBodies parseSigned plainText services "broker" message tokenChunks signChunks ∧
      (Authentication.authenticate (.response 200 tokenChunks false)).authToken =
        asciiString "c" ∧
      (Authentication.authenticate (.response 200 tokenChunks false)).connects.length = 2 ∧
      (NewTunnelRun.newTunnel parseSigned plainText services "broker" message none
        (.response 200 signChunks false)).sessions = [] := by
  refine ⟨by decide +kernel, ?_, by decide +kernel, by decide +kernel, by decide +kernel⟩
  rintro ⟨htoken, -⟩
  exact absurd ((Authentication.whole_iff _).mp htoken) (by decide)

end TunnelBore.TypeScript
