import ObjectVault.CommandLine.Run
import ObjectVault.Proofs.Client.Requests

/-!
# Command lines as requests to a client

A command line comes to one request to a client, `Request.asked`, and shows the reply to it as a line,
`replyLine`. What it cannot do that for, it ends with before any store is opened: a command line that
is not read, settings that do not come from their file, contents that do not come from theirs. The
theorems `run_of_...` are these cases, and there are no others; `execute_of_...` are the same for a
command line that has been read.
-/

namespace ObjectVault.CommandLine

/-! ### Requests -/

/-- The line that a reply is shown as. -/
def replyLine (key : String) : Client.Reply → Except RunError String
  | .read (.ok outcome) => readLine key outcome
  | .write (.ok ()) => .ok doneLine
  | .deletion (.ok outcome) => .ok (deleteLine outcome)
  | .read (.error error) | .write (.error error) | .deletion (.error error) =>
      .error (.client error)

namespace Request

variable {σ κ ς : Type} {request : Request} {read : Bytes → Except FileError Bytes}

/-- The request to a client that a request on a command line stands for, once its contents have been
read. -/
def asked (read : Bytes → Except FileError Bytes) : Request → Except RunError Client.Request
  | .put key source => (source.contents read).map (.put key)
  | .get key => .ok (.get key)
  | .delete key => .ok (.delete key)

/-- Only contents that cannot be had keep a request from being asked. -/
theorem asked_eq_error {error : RunError} (fails : request.asked read = .error error) :
    ∃ key source, request = .put key source ∧ source.contents read = .error error := by
  cases request with
  | put key source =>
      cases holds : source.contents read with
      | error cause =>
          rw [asked, holds] at fails
          cases fails
          exact ⟨key, source, rfl, holds⟩
      | ok data =>
          rw [asked, holds] at fails
          cases fails
  | get key | delete key => cases fails

theorem asked_put {key : String} {source : Source} {data : Bytes}
    (holds : source.contents read = .ok data) :
    (put key source).asked read = .ok (.put key data) := by
  rw [asked, holds]
  rfl

/-- What is done with a result is to show the reply that it is. -/
theorem bind_eq_replyLine {α : Type} {key : String} {reply : α → Client.Reply}
    {next : α → Action σ (Except RunError String)} (action : Action σ α)
    (shows : ∀ result, next result = pure (replyLine key (reply result))) :
    action >>= next = replyLine key <$> (reply <$> action) := by
  rw [← comp_map, map_eq_pure_bind]
  exact congrArg (action >>= ·) (funext shows)

/-- Once the source of a request has been read, the client carries the request out, and a line tells
of the reply. -/
theorem perform_of_asked {asked : Client.Request} (client : Client) (backend : Backend σ κ ς)
    (asks : request.asked read = .ok asked) :
    request.perform client backend read = replyLine request.key <$> client.perform backend asked := by
  cases request with
  | put key source =>
      cases holds : source.contents read with
      | error error =>
          rw [Request.asked, holds] at asks
          cases asks
      | ok data =>
          rw [asked_put holds] at asks
          cases asks
          simp only [perform, holds]
          apply bind_eq_replyLine
          intro result
          rcases result with error | ⟨⟨⟩⟩
          · rfl
          · rfl
  | get key =>
      cases asks
      apply bind_eq_replyLine
      intro result
      cases result with
      | error error | ok outcome => rfl
  | delete key =>
      cases asks
      apply bind_eq_replyLine
      intro result
      cases result with
      | error error | ok outcome => rfl

/-- Where there are no contents, no backend hears of the request. -/
theorem perform_of_not_asked {error : RunError} (client : Client) (backend : Backend σ κ ς)
    (fails : request.asked read = .error error) :
    request.perform client backend read = pure (.error error) := by
  obtain ⟨key, source, rfl, lacking⟩ := asked_eq_error fails
  simp only [perform, lacking]

end Request

/-! ### Command lines -/

section Runs

variable {words : List Bytes} {arguments : Arguments} {base settings : Settings}
  {error : RunError} {tree : FileTree}

/-- The settings that a command line starts from: those of the file that it names or the standard
ones. -/
def Arguments.loaded (tree : FileTree) (arguments : Arguments) :
    Except SettingsFileError Settings :=
  match arguments.config with
  | some path => Settings.load tree path
  | none => .ok .standard

/-- A directory on the command line goes before the one that is loaded. -/
theorem Arguments.settings_of_loaded (loads : arguments.loaded tree = .ok base) :
    arguments.settings tree
      = .ok { base with storeDir := arguments.storeDir.getD base.storeDir } := by
  unfold loaded at loads
  cases named : arguments.config with
  | none =>
      rw [named] at loads
      cases loads
      rw [settings, named]
      rfl
  | some path =>
      rw [named] at loads
      change Settings.load tree path = .ok base at loads
      simp only [settings, named, loads]
      rfl

/-- Only the file that a command line names can keep it from its settings. -/
theorem Arguments.settings_of_not_loaded {cause : SettingsFileError}
    (fails : arguments.loaded tree = .error cause) :
    ∃ path, arguments.config = some path ∧
      arguments.settings tree = .error (.badSettings path cause) := by
  unfold loaded at fails
  cases named : arguments.config with
  | none =>
      rw [named] at fails
      cases fails
  | some path =>
      rw [named] at fails
      change Settings.load tree path = .error cause at fails
      refine ⟨path, rfl, ?_⟩
      simp only [settings, named, fails]
      rfl

/-- Where the settings are bad, nothing is done. -/
theorem execute_of_bad_settings (fails : arguments.settings tree = .error error) :
    arguments.execute.run tree = ⟨.error error, tree, []⟩ := by
  simp only [Arguments.execute, Action.run_bind, Action.run_get, fails]
  rfl

/-- Where the source is bad, the store has been selected, and nothing more is done. -/
theorem execute_of_bad_source (settles : arguments.settings tree = .ok settings)
    (fails : arguments.request.asked tree.read = .error error) :
    arguments.execute.run tree
      = ⟨.error error, tree, [.storeSelected settings.storeDir settings.service]⟩ := by
  simp only [Arguments.execute, Action.run_bind, Action.run_get, settles,
    Request.perform_of_not_asked _ _ fails]
  rfl

/-- Everything else is one request to a client. -/
theorem execute_of_asked {asked : Client.Request} (settles : arguments.settings tree = .ok settings)
    (asks : arguments.request.asked tree.read = .ok asked) :
    let outcome := ((Client.ofSettings settings).perform (storeOf settings).backend asked).run tree
    arguments.execute.run tree
      = ⟨replyLine arguments.request.key outcome.value, outcome.state,
          .storeSelected settings.storeDir settings.service :: outcome.events⟩ := by
  intro outcome
  simp only [Arguments.execute, Action.run_bind, Action.run_get, settles,
    Request.perform_of_asked _ _ asks, Action.run_map, Action.run_report]
  simp [outcome]

end Runs

end ObjectVault.CommandLine
