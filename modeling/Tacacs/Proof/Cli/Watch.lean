import Tacacs.Cli.Wiring
import Tacacs.Proof.Cli.Reload
import Tacacs.Proof.Server.CommandAvp
import Tacacs.Proof.Server.Consults
import Tacacs.Proof.Server.Rules
import Tacacs.Proof.Yang.Watch

/-!
# The server and its configuration

While the server answers packets, the goroutine of the watcher reloads the configuration. The
handler never writes to the backends, and the callback writes nothing else; so at any time the
backends are those that the server would have been started with from the configuration in force,
which is the last one that was loaded without an error.
-/

set_option autoImplicit false

namespace Tacacs
namespace Proof
namespace Cli

open GoSem Tacacs.Server Tacacs.Cli Tacacs.Yang
open Tacacs.Proof.Server Tacacs.Proof.Yang

variable {α : Type} {compile : RegexpCompile} {authBackend : GoString} {bcrypt : Bcrypt}
  {external : Option (Authenticator α)} {acct : Option (Accounter α)}

/-- The backends are those of a server that is started with `uc`. An external authenticator leaves
    the one of the configuration unused, and the callback then does not touch it. -/
def Follows (compile : RegexpCompile) (authBackend : GoString) (uc : UserConfig)
    (b : AaaBackends) : Prop :=
  ∃ b', startBackends compile uc = .ok b' ∧ b.az = b'.az ∧
    (authBackend = lit "local" → b.auth = b'.auth)

/-- The configuration of the last load without an error, or the one of the start. -/
def inForce (uc : UserConfig) (ls : List (Load ConfigFile)) : UserConfig :=
  lastLoaded uc (ls.map fun l => (l.contents, l.err))

theorem inForce_snoc (uc : UserConfig) (ls : List (Load ConfigFile)) (l : Load ConfigFile) :
    inForce uc (ls ++ [l]) = lastLoaded (inForce uc ls) [(l.contents, l.err)] := by
  unfold inForce lastLoaded
  rw [List.map_append, List.foldl_append]
  rfl

theorem startBackends_eq {uc : UserConfig} {rules compiled : List CommandRule}
    (hrules : userConfigToRules compile uc = .ok rules)
    (hcompiled : compileRules compile 0 rules = .ok compiled) :
    startBackends compile uc =
      .ok { auth := newBcryptAuthenticator (some uc), az := { rules := compiled } } := by
  unfold startBackends newCommandAuthorizer
  rw [hrules]
  dsimp only
  rw [hcompiled]

/-- A callback that fails changes nothing; one that succeeds leaves the backends of a server that
    is started with the file. -/
theorem watchCallback_follows (compile : RegexpCompile) (authBackend : GoString) (b : AaaBackends)
    (file : ConfigFile) :
    (∃ err, watchCallback compile authBackend b file = (b, some err)) ∨
      ∃ uc b', file = .decoded uc ∧ watchCallback compile authBackend b file = (b', none) ∧
        Follows compile authBackend uc b' := by
  unfold watchCallback
  cases hload : loadUserConfig file with
  | error err => exact .inl ⟨err, rfl⟩
  | ok uc =>
    dsimp only
    cases hrules : userConfigToRules compile uc with
    | error err => exact .inl ⟨err, rfl⟩
    | ok rules =>
      dsimp only
      unfold CommandAuthorizer.reload
      cases hcompiled : compileRules compile 0 rules with
      | error e => exact .inl ⟨_, rfl⟩
      | ok compiled =>
        dsimp only
        have hstart := startBackends_eq hrules hcompiled
        by_cases hlocal : authBackend = lit "local"
        · rw [if_pos hlocal]
          exact .inr ⟨uc, _, loadUserConfig_ok hload, rfl, _, hstart, rfl, fun _ => rfl⟩
        · rw [if_neg hlocal]
          exact .inr ⟨uc, _, loadUserConfig_ok hload, rfl, _, hstart, rfl,
            fun h => absurd h hlocal⟩

/-- A configuration that the server could have been started with is loaded without an error. -/
theorem watchCallback_ok {uc : UserConfig} {b' : AaaBackends} (hvalid : uc.validate = .ok ())
    (hstart : startBackends compile uc = .ok b') (b : AaaBackends) :
    (watchCallback compile authBackend b (.decoded uc)).2 = none := by
  have hload : loadUserConfig (.decoded uc) = .ok uc := by
    simp [loadUserConfig, hvalid]
  obtain ⟨-, -, rules, hrules, hcompiled⟩ := derivedFrom_startBackends hstart
  unfold watchCallback CommandAuthorizer.reload
  rw [hload]
  dsimp only
  rw [hrules]
  dsimp only
  rw [hcompiled]
  dsimp only
  split <;> rfl

/-! ## The server leaves the backends alone -/

theorem packet_backends {s : Server (Parts α)}
    (hs : s.cfg.handler = (configHandler bcrypt external acct).handler) (c : Transport.Conn)
    (t : Times) (st : State (Parts α)) (p : Transport.Pkt) :
    (handle s c t st p).st.handler.backends = st.handler.backends := by
  cases handle_consults s c t st p with
  | unasked _ hw => rw [hw]
  | authenticate ac cont _ hw _ =>
    rw [hw, hs]
    simp only [CompositeHandler.handler, CompositeHandler.looked_snd,
      CompositeHandler.authenticate, configHandler]
    split <;> rfl
  | authorize ac _ hw _ =>
    rw [hw, hs]
    simp only [CompositeHandler.handler, CompositeHandler.looked_snd,
      CompositeHandler.authorize, configHandler]
  | account ac _ hw _ =>
    rw [hw, hs]
    simp only [CompositeHandler.handler, CompositeHandler.looked_snd,
      CompositeHandler.account, configHandler]
    cases acct <;> rfl

theorem step_backends {s : Server (Parts α)}
    (hs : s.cfg.handler = (configHandler bcrypt external acct).handler) (st : State (Parts α))
    (e : Event) : (step s st e).1.handler.backends = st.handler.backends := by
  cases e with
  | packet c t p => exact packet_backends hs c t st p
  | sweep now => rfl

/-! ## Any run -/

section Run

variable {w : Watched ConfigFile (State (Parts α))} {uc : UserConfig} {ls : List (Load ConfigFile)}

/-- Each load was a call of the callback, on some backends. -/
def Called (compile : RegexpCompile) (authBackend : GoString) (ls : List (Load ConfigFile)) :
    Prop :=
  ∀ l ∈ ls, ∃ b, l.err = (watchCallback compile authBackend b l.contents).2

theorem follows_load {b b' : AaaBackends} {l : Load ConfigFile}
    (h : Follows compile authBackend (inForce uc ls) b)
    (hl : watchCallback compile authBackend b l.contents = (b', l.err)) :
    Follows compile authBackend (inForce uc (ls ++ [l])) b' := by
  rw [inForce_snoc]
  rcases watchCallback_follows compile authBackend b l.contents with
    ⟨err, herr⟩ | ⟨cfg, b₁, hfile, hok, hfollows⟩
  · rw [herr] at hl
    obtain ⟨rfl, hlerr⟩ := Prod.mk.inj hl
    rw [← hlerr]
    cases l.contents <;> exact h
  · rw [hok] at hl
    obtain ⟨rfl, hlerr⟩ := Prod.mk.inj hl
    rw [hfile, ← hlerr]
    exact hfollows

/-- When the file as it is was loaded last, and could have been started with, it is in force. -/
theorem inForce_current {s : Watcher ConfigFile (State (Parts α))} {cfg : UserConfig}
    {b : AaaBackends} (hcalled : Called compile authBackend ls) (hcur : Current ls s)
    (hfile : s.file = .decoded cfg) (hvalid : cfg.validate = .ok ())
    (hstart : startBackends compile cfg = .ok b) : inForce uc ls = cfg := by
  obtain ⟨l, hlast, hl⟩ := Option.map_eq_some_iff.mp hcur
  obtain ⟨before, rfl⟩ := List.getLast?_eq_some_iff.mp hlast
  obtain ⟨b₀, herr⟩ := hcalled l (List.mem_append_right _ (.head _))
  rw [hl, hfile, watchCallback_ok hvalid hstart] at herr
  rw [inForce_snoc, hl, hfile, herr]
  rfl

/-- What holds throughout: the backends are those of the configuration in force, and a session
    remembers its START. -/
structure Governed (compile : RegexpCompile) (authBackend : GoString) (uc : UserConfig)
    (es : List Event) (ls : List (Load ConfigFile)) (st : State (Parts α)) : Prop where
  follows : Follows compile authBackend (inForce uc ls) st.handler.backends
  called : Called compile authBackend ls
  remembers : Remembers es st

theorem Governed.watcher {es : List Event} {s : Watcher ConfigFile (State (Parts α))}
    (h : Governed compile authBackend uc es ls s.state) (hfn : w.fn = reload compile authBackend)
    (a : WatchAct ConfigFile) :
    Governed compile authBackend uc es (ls ++ (w.step s a).2.toList) (w.step s a).1.state := by
  rcases (step_moves w s a).state with ⟨seen, contents, -, hout, hstate⟩ | ⟨hout, hstate⟩
  · rw [hout, hstate, hfn]
    refine ⟨follows_load h.follows rfl, ?_, h.remembers⟩
    intro l hl
    rcases List.mem_append.mp hl with hl | hl
    · exact h.called l hl
    · rw [List.mem_singleton.mp hl]
      exact ⟨s.state.handler.backends, rfl⟩
  · rw [hout, hstate, Option.toList_none, List.append_nil]
    exact h

/-- The events of the server in a run. -/
def served (acts : List (WatchAct ConfigFile ⊕ Event)) : List Event :=
  acts.filterMap Sum.getRight?

theorem governed_run {cfg : Config (Parts α)}
    (hcfg : cfg.handler = (configHandler bcrypt external acct).handler) {b : AaaBackends}
    (hstart : startBackends compile uc = .ok b) (hfn : w.fn = reload compile authBackend)
    (rest : α) (file : ConfigFile) (acts : List (WatchAct ConfigFile ⊕ Event)) :
    let use := step (new cfg)
    let init : Watcher ConfigFile (State (Parts α)) :=
      { file, state := State.init cfg { backends := b, rest } }
    Governed compile authBackend uc (served acts) (loads (Run.outputs (w.stepWith use) init acts))
      (Run.after (w.stepWith use) init acts).state := by
  intro use init
  refine Run.run_induction (w.stepWith use) (s := init)
    (fun is os s => Governed compile authBackend uc (served is) (loads os) s.state) ?_ ?_ acts
  · exact ⟨⟨b, hstart, rfl, fun _ => rfl⟩, fun l hl => (by cases hl), remembers_init cfg _⟩
  · intro is os s a h
    rw [loads_snoc]
    cases a with
    | inl a =>
      have hserved : served (is ++ [.inl a]) = served is := by simp [served]
      rw [hserved]
      exact h.watcher hfn a
    | inr e =>
      have hserved : served (is ++ [.inr e]) = served is ++ [e] := by simp [served]
      rw [hserved]
      show Governed _ _ _ _ (_ ++ []) (step (new cfg) s.state e).1
      rw [List.append_nil]
      refine ⟨?_, h.called, remembers_step (new cfg) h.remembers e⟩
      rw [step_backends hcfg]
      exact h.follows

/-- **The server follows its configuration.** Packets are answered on any connections while the
    file is changed, even while it is read, and loaded again. At any time the backends are those
    that the server would have been started with from the configuration in force; a file that
    cannot be loaded changes nothing. And whenever no event is outstanding, that configuration is
    the one in the file, if the server could be started with it. -/
theorem server_follows_config (bcrypt : Bcrypt) (compile : RegexpCompile) (authBackend : GoString)
    (external : Option (Authenticator α)) (acct : Option (Accounter α)) (cfg : Config (Parts α))
    (hcfg : cfg.handler = (configHandler bcrypt external acct).handler) (uc : UserConfig)
    (b : AaaBackends) (hstart : startBackends compile uc = .ok b)
    (w : Watched ConfigFile (State (Parts α))) (hfn : w.fn = reload compile authBackend) (rest : α)
    (file : ConfigFile) (acts : List (WatchAct ConfigFile ⊕ Event)) :
    let step := w.stepWith (step (new cfg))
    let init : Watcher ConfigFile (State (Parts α)) :=
      { file, state := State.init cfg { backends := b, rest } }
    let s := Run.after step init acts
    let ls := loads (Run.outputs step init acts)
    Follows compile authBackend (inForce uc ls) s.state.handler.backends ∧
      (s.phase = .waiting → s.pending = false → (∀ name ∈ s.events, ¬w.Own name) →
        ∀ cfg' b', s.file = .decoded cfg' → cfg'.validate = .ok () →
          startBackends compile cfg' = .ok b' → inForce uc ls = cfg') := by
  intro step init s ls
  have hgoverned : Governed compile authBackend uc (served acts) ls s.state :=
    governed_run hcfg hstart hfn rest file acts
  refine ⟨hgoverned.follows, fun hphase hpending htaken cfg' b' hfile hvalid hstart' => ?_⟩
  have htracks : Tracks w ls s := tracks_run w _ file _ acts
  have hcur : Current ls s := htracks.current hphase hpending (by
    rintro ⟨name, hmem, hown⟩
    exact htaken name hmem hown)
  exact inForce_current hgoverned.called hcur hfile hvalid hstart'

/-- A file that is watched on behalf of a server with its own authenticator. -/
def usersYaml (compile : RegexpCompile) : Watched ConfigFile (State (Parts Unit)) where
  path := lit "users.yaml"
  fn := reload compile (lit "local")
  name := lit "./users.yaml"
  base_name := rfl

def localConfig : Config (Parts Unit) :=
  { handler := (configHandler noBcrypt none none).handler, mode := .tls }

def ivanBackends : AaaBackends where
  auth := newBcryptAuthenticator (some (loginConfig "ivan"))
  az := { rules := [] }

/-- The file was changed between the start and the first load of the watcher. -/
theorem server_follows_config_judy :
    inForce (loginConfig "ivan") (loads (Run.outputs
      ((usersYaml noRegexp).stepWith (step (new localConfig)))
      { file := .decoded (loginConfig "judy"),
        state := State.init localConfig { backends := ivanBackends, rest := () } }
      [.inl (.added none), .inl (.loaded (.unreadable .eof))])) = loginConfig "judy" :=
  (server_follows_config noBcrypt noRegexp (lit "local") none none localConfig rfl
    (loginConfig "ivan") ivanBackends rfl (usersYaml noRegexp) rfl () _ _).2 rfl rfl
    (fun _ h => (by cases h)) (loginConfig "judy") _ rfl rfl rfl

/-- **Who may log in.** In the same setting, with the authenticator of the configuration: a packet
    is answered with PASS only if the last START of its session names a user of the configuration
    in force, whose type restriction admits the START and whose password the packet carries. A
    user who is removed from the file does not get through, whenever the session began. -/
theorem pass_needs_user_in_force (bcrypt : Bcrypt) (compile : RegexpCompile)
    (acct : Option (Accounter α)) (cfg : Config (Parts α))
    (hcfg : cfg.handler = (configHandler bcrypt none acct).handler) (uc : UserConfig)
    (b : AaaBackends) (hstart : startBackends compile uc = .ok b)
    (w : Watched ConfigFile (State (Parts α))) (hfn : w.fn = reload compile (lit "local"))
    (rest : α) (file : ConfigFile) (acts : List (WatchAct ConfigFile ⊕ Event))
    (c : Transport.Conn) (t : Times) (p q : Transport.Pkt) (reply : Packet.AuthenReply) :
    let init : Watcher ConfigFile (State (Parts α)) :=
      { file, state := State.init cfg { backends := b, rest } }
    let s := Run.after (w.stepWith (step (new cfg))) init acts
    let users := inForce uc (loads (Run.outputs (w.stepWith (step (new cfg))) init acts))
    (step (new cfg) s.state (.packet c t p)).2.reply = some q →
    q.hdr.type = packetAuthentication → Packet.AuthenReply.unmarshalBinary q.body = .ok reply →
    reply.status = authenStatusPass →
    ∃ start u, lastStart q.hdr.sessionID (served acts ++ [.packet c t p]) = some start ∧
      u ∈ users.users ∧ u.username = start.user ∧
      (u.authType ≠ [] → authTypeMatches u.authType start.type = true) ∧
      CarriesPassword bcrypt users.allowPlaintext u.passwordHash start p := by
  intro init s users hq htype hreply hpass
  have hgoverned : Governed compile (lit "local") uc (served acts) _ s.state :=
    governed_run hcfg hstart hfn rest file acts
  obtain ⟨start, cont, dec, hlast, hdec, hstatus, hcarries⟩ :=
    step_pass hgoverned.remembers hq htype hreply hpass
  obtain ⟨b', hb', -, hauth⟩ := hgoverned.follows
  obtain ⟨hstore, hplain, -⟩ := derivedFrom_startBackends hb'
  rw [← hauth rfl] at hstore hplain
  -- the decision is the authenticator's, over the store of the configuration in force
  rw [show (new cfg).cfg.handler = _ from hcfg] at hdec
  rw [← Except.ok.inj hdec] at hstatus
  obtain ⟨u, password, hu, hadmits, hpresented, hverifies⟩ := authenticateWith_pass_iff.mp hstatus
  rw [hstore, lookup_newMemoryUserStore] at hu
  rw [hplain] at hverifies
  obtain ⟨hmem, hname⟩ := userEntry_mem hu
  refine ⟨start, u, hlast, hmem, hname, hadmits, ?_⟩
  rcases hcarries password hpresented with ⟨hseq, hpap, rfl⟩ | ⟨hseq, ct, hb, rfl⟩
  · exact .inl ⟨hseq, hpap, hverifies⟩
  · exact .inr ⟨hseq, ct, hb, hverifies⟩

/-- A login of `bob`, who is not in the configuration the server was started with. -/
theorem pass_needs_user_in_force_bob :
    ∃ start u, lastStart 9 [.packet tlsConn ⟨0, 0⟩ (clearPkt 9 1 (asciiLogin "bob")),
        .packet tlsConn ⟨1, 1⟩ (clearPkt 9 3 (continueWith "secret"))] = some start ∧
      u ∈ bobConfig.users ∧ u.username = start.user ∧
      (u.authType ≠ [] → authTypeMatches u.authType start.type = true) ∧
      CarriesPassword noBcrypt true u.passwordHash start (clearPkt 9 3 (continueWith "secret")) :=
  pass_needs_user_in_force noBcrypt noRegexp none localConfig rfl (loginConfig "ivan") ivanBackends
    rfl (usersYaml noRegexp) rfl () (.decoded bobConfig)
    [.inl (.added none), .inl (.loaded (.unreadable .eof)),
      .inr (.packet tlsConn ⟨0, 0⟩ (clearPkt 9 1 (asciiLogin "bob")))]
    tlsConn ⟨1, 1⟩ (clearPkt 9 3 (continueWith "secret"))
    ⟨Packet.errorHeader (clearPkt 9 3 []).hdr, [1, 0, 0, 0, 0, 0]⟩ { status := authenStatusPass }
    (by decide) rfl rfl rfl

/-- **What may be done.** In the same setting, with any authenticator: a request is granted only if
    the first rule that matches it, among those of the configuration in force, is not a denial. -/
theorem grant_needs_rule_in_force (bcrypt : Bcrypt) (compile : RegexpCompile)
    (authBackend : GoString) (external : Option (Authenticator α)) (acct : Option (Accounter α))
    (cfg : Config (Parts α)) (hcfg : cfg.handler = (configHandler bcrypt external acct).handler)
    (uc : UserConfig) (b : AaaBackends) (hstart : startBackends compile uc = .ok b)
    (w : Watched ConfigFile (State (Parts α))) (hfn : w.fn = reload compile authBackend) (rest : α)
    (file : ConfigFile) (acts : List (WatchAct ConfigFile ⊕ Event)) (c : Transport.Conn)
    (t : Times) (p q : Transport.Pkt) (reply : Packet.AuthorReply) :
    let init : Watcher ConfigFile (State (Parts α)) :=
      { file, state := State.init cfg { backends := b, rest } }
    let s := Run.after (w.stepWith (step (new cfg))) init acts
    let users := inForce uc (loads (Run.outputs (w.stepWith (step (new cfg))) init acts))
    (step (new cfg) s.state (.packet c t p)).2.reply = some q →
    q.hdr.type = packetAuthorization → Packet.AuthorReply.unmarshalBinary q.body = .ok reply →
    Grants reply.status →
    ∃ req args rules compiled r, Packet.AuthorRequest.unmarshalBinary p.body = .ok req ∧
      parseArguments req.args = .ok args ∧ userConfigToRules compile users = .ok rules ∧
      compileRules compile 0 rules = .ok compiled ∧
      firstMatch compiled (extractCmd args) args = some r ∧ r.action ≠ actionDeny := by
  intro init s users hq htype hreply hgrants
  have hgoverned : Governed compile authBackend uc (served acts) _ s.state :=
    governed_run hcfg hstart hfn rest file acts
  obtain ⟨req, ac, dec, hreq, -, hargs, hdec, hdecided⟩ := step_grants hq htype hreply hgrants
  obtain ⟨b', hb', haz, -⟩ := hgoverned.follows
  obtain ⟨-, -, rules, hrules, hcompiled⟩ := derivedFrom_startBackends hb'
  rw [← haz] at hcompiled
  rw [show (new cfg).cfg.handler = _ from hcfg] at hdec
  have hauthorized : dec = authorizeRules (extractCmd ac.args) ac.args
      s.state.handler.backends.az.rules := (Except.ok.inj hdec).symm
  rw [hauthorized, authorizeRules_eq] at hdecided
  cases hmatch : firstMatch s.state.handler.backends.az.rules (extractCmd ac.args) ac.args with
  | none =>
    rw [hmatch] at hdecided
    exact absurd hdecided (by unfold Grants; decide)
  | some r =>
    rw [hmatch] at hdecided
    refine ⟨req, ac.args, rules, _, r, hreq, hargs, hrules, hcompiled, hmatch, fun hdeny => ?_⟩
    have hfail : (verdict r).status = authorStatusFail := by rw [verdict, if_pos hdeny]
    have hgranted : Grants (verdict r).status := hdecided
    rw [hfail] at hgranted
    exact absurd hgranted (by unfold Grants; decide)

/-- A configuration that allows `show`. -/
def openConfig : UserConfig := { policy := { allowCommands := [lit "show"] } }

/-- The authorization of `show`. -/
def showPkt : Transport.Pkt :=
  ⟨{ version := versionDefault, type := packetAuthorization, seqNo := 1,
     flags := flagUnencrypted, sessionID := 5, length := 20 },
    [1, 1, 1, 1, 3, 0, 0, 1, 8] ++ lit "bob" ++ lit "cmd=show"⟩

theorem grant_needs_rule_in_force_show :
    ∃ req args rules compiled r, Packet.AuthorRequest.unmarshalBinary showPkt.body = .ok req ∧
      parseArguments req.args = .ok args ∧ userConfigToRules anything openConfig = .ok rules ∧
      compileRules anything 0 rules = .ok compiled ∧
      firstMatch compiled (extractCmd args) args = some r ∧ r.action ≠ actionDeny :=
  grant_needs_rule_in_force noBcrypt anything (lit "local") none none localConfig rfl
    (loginConfig "ivan") ivanBackends rfl (usersYaml anything) rfl () (.decoded openConfig)
    [.inl (.added none), .inl (.loaded (.unreadable .eof))] tlsConn ⟨0, 0⟩ showPkt
    ⟨Packet.errorHeader showPkt.hdr, [1, 0, 0, 0, 0, 0]⟩ { status := authorStatusPassAdd }
    (by decide) rfl rfl (.inl rfl)

end Run

end Cli
end Proof
end Tacacs
