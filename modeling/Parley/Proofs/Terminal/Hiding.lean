/-
This file settles that hiding commands hides nothing else. Two programs whose surroundings
differ in nothing but that setting start plays that differ in nothing but that setting,
whatever is wrong with the surroundings; and such plays go in step. So the programs end
together and read the same lines, and on the screen of the second everything is missing
that is seen of the commands on the screen of the first, and nothing else.

The setting may be given in several places. What counts is what a play is set up with; that
a word in the environment does no more than it should is proved here too.
-/

import Parley.Proofs.Roster.Latest
import Parley.Proofs.Terminal.Faithful
import Parley.Proofs.Terminal.Muting

namespace Parley

/-! ### Surroundings that differ in whether commands are shown -/

namespace Surroundings

/-- What a play is set up with: the lines of the settings file that cannot be read, and the
settings. Either may be refused. -/
abbrev Setup := Except Crash (List Nat × Except Crash Settings)

/-- What a play in these surroundings is set up with. -/
def setup (surroundings : Surroundings) (start : Option String) : Setup :=
  surroundings.settingsText.map fun text =>
    (Dotenv.unreadableLines text, surroundings.settings text start)

/-- A setup with commands shown or hidden. What is refused stays refused. -/
def Setup.withCommands (commands : Bool) (setup : Setup) : Setup :=
  setup.map fun found => (found.1, found.2.map (Settings.withCommands commands))

/-- Two surroundings in which a script is to be played, with commands shown in the first and hidden
in the second: the words, the log filter, the file of the script and all other settings are the
same. -/
structure DifferInCommands (script : String) (start : Option String)
    (shown hidden : Surroundings) : Prop where
  words : hidden.words = shown.words
  levels : hidden.levels = shown.levels
  script : hidden.files (Path.ofString script) = shown.files (Path.ofString script)
  reveals : shown.setup start = (shown.setup start).withCommands true
  conceals : hidden.setup start = (shown.setup start).withCommands false

end Surroundings

/-! ### A word for the setting in the environment -/

namespace Settings

/-- The variable of the environment that says whether commands are shown. -/
def commandsVariable : String := "SPINDLE_SHOW_COMMANDS"

theorem outside_concat (named : List (String × Option String)) (entry : String × Option String) :
    outside (named ++ [entry]) = (outside named).put (small entry.1) entry.2 := by
  rw [outside, List.map_append]
  exact Roster.ofList_concat _ _

/-- The settings where it is known whether commands are shown. -/
def loadKnowing (commands : Bool) (overrides : Ledger String Literal)
    (outer inner : Ledger String (Option String)) : Except SettingFaults Settings :=
  let start := choose name default.startNode (given? overrides outer inner "start_node")
  let strict :=
    choose truth default.strictFunctions (given? overrides outer inner "strict_functions")
  match start, strict with
  | .ok startNode, .ok strictFunctions =>
    .ok { startNode, showCommands := commands, strictFunctions }
  | _, _ => .error (faultOf "start_node" start ++ faultOf "strict_functions" strict)

variable {overrides : Ledger String Literal} {outer inner : Ledger String (Option String)}

theorem loadKnowing_eq (commands known : Bool) : loadKnowing commands overrides outer inner =
    (loadKnowing known overrides outer inner).map (withCommands commands) := by
  rw [loadKnowing, loadKnowing]
  cases choose name default.startNode (given? overrides outer inner "start_node") with
  | error fault => rfl
  | ok start =>
    cases choose truth default.strictFunctions
      (given? overrides outer inner "strict_functions") <;> rfl

theorem given?_put {setting written : String} (other : beginning ++ setting ≠ written)
    (word : Option String) : given? overrides (outer.put written word) inner setting =
      given? overrides outer inner setting := by
  rw [given?, given?]
  dsimp only
  rw [Ledger.find?_put_other outer other]

/-- A word at the end of the environment says whether commands are shown. -/
theorem load_concat (environment : List (String × String)) {word : String} {commands : Bool}
    (silent : override? overrides "show_commands" = none)
    (said : truth (.string word) = .ok commands) (file : List Char) :
    load overrides (environment ++ [(commandsVariable, word)]) file =
      loadKnowing commands overrides
        (outside (environment.map fun entry => (entry.1, some entry.2)))
        (outside (Dotenv.read (environment ++ [(commandsVariable, word)]) file).entries) := by
  have small : small commandsVariable = beginning ++ "show_commands" := by cbv
  have start : beginning ++ "start_node" ≠ beginning ++ "show_commands" := by decide
  have strict : beginning ++ "strict_functions" ≠ beginning ++ "show_commands" := by decide
  rw [load, List.map_append, List.map_singleton, outside_concat, small]
  generalize outside (environment.map fun entry => (entry.1, some entry.2)) = outer
  generalize outside (Dotenv.read _ file).entries = inner
  have given : given? overrides (outer.put (beginning ++ "show_commands") (some word)) inner
      "show_commands" = some (.string word) := by
    rw [given?, silent]
    dsimp only
    rw [Ledger.find?_put_self]
    rfl
  rw [given?_put start, given?_put strict, given, loadKnowing]
  generalize choose name default.startNode (given? overrides outer inner "start_node") = start
  generalize choose truth default.strictFunctions
    (given? overrides outer inner "strict_functions") = strict
  dsimp only [choose]
  rw [said]
  cases start with
  | error fault => rfl
  | ok start => cases strict <;> rfl

end Settings

/-- Without a settings file nothing refers to the environment. -/
theorem Dotenv.read_nil (environment : List (String × String)) :
    read environment [] = Roster.empty := rfl

namespace Surroundings

/-- Surroundings with a word in the environment for whether commands are shown. -/
def saying (word : String) (surroundings : Surroundings) : Surroundings :=
  { surroundings with
    environment := surroundings.environment ++ [(Settings.commandsVariable, word)] }

theorem levels_saying (word : String) (surroundings : Surroundings) :
    (surroundings.saying word).levels = surroundings.levels := by
  have other : [(Settings.commandsVariable, word)].lookup filterVariable = none := rfl
  rw [levels, levels, saying]
  dsimp only
  rw [List.lookup_append, other, Option.or_none]

section

variable {surroundings : Surroundings} {word other : String} {commands known : Bool}
  (said : Settings.truth (.string word) = .ok commands)
  (said' : Settings.truth (.string other) = .ok known)

include said said'

/-- The settings with one word are those with another one, but for what the word says. -/
theorem settings_saying {text : List Char} (start : Option String)
    (unread : Dotenv.read (surroundings.saying word).environment text =
      Dotenv.read (surroundings.saying other).environment text) :
    (surroundings.saying word).settings text start =
      ((surroundings.saying other).settings text start).map (Settings.withCommands commands) := by
  have small : Settings.small "start_node" ≠ "show_commands" := by decide +kernel
  have loads (overrides : Ledger String Literal)
      (silent : Settings.override? overrides "show_commands" = none) :
      Settings.load overrides (surroundings.saying word).environment text =
        (Settings.load overrides (surroundings.saying other).environment text).map
          (Settings.withCommands commands) := by
    have loaded := Settings.load_concat surroundings.environment silent said text
    have loaded' := Settings.load_concat surroundings.environment silent said' text
    rw [saying, saying] at unread ⊢
    dsimp only at unread ⊢
    rw [loaded, loaded', unread, Settings.loadKnowing_eq commands known]
  rw [Surroundings.settings.eq_def, Surroundings.settings.eq_def]
  dsimp only
  rw [loads]
  · cases Settings.load _ (surroundings.saying other).environment text <;> rfl
  · cases start with
    | none => rfl
    | some name => simp [Settings.override?, Roster.insert, Roster.empty, upsert, small]

theorem setup_saying (start : Option String)
    (unread : ∀ text, surroundings.settingsText = .ok text →
      Dotenv.read (surroundings.saying word).environment text =
        Dotenv.read (surroundings.saying other).environment text) :
    (surroundings.saying word).setup start =
      ((surroundings.saying other).setup start).withCommands commands := by
  have same (word : String) : (surroundings.saying word).settingsText = surroundings.settingsText :=
    rfl
  rw [setup, setup, same, same]
  cases read : surroundings.settingsText with
  | error crash => rfl
  | ok text =>
    dsimp only [Except.map]
    rw [settings_saying said said' start (unread text read)]
    rfl

end

/-- With a word for true in the environment of one program and a word for false in that of another,
the two differ in whether commands are shown, unless the settings file refers to the word. -/
theorem differInCommands_saying {surroundings : Surroundings} (script : String)
    (start : Option String) {yes no : String}
    (affirms : Settings.truth (.string yes) = .ok true)
    (denies : Settings.truth (.string no) = .ok false)
    (unread : ∀ text, surroundings.settingsText = .ok text →
      Dotenv.read (surroundings.saying no).environment text =
        Dotenv.read (surroundings.saying yes).environment text) :
    DifferInCommands script start (surroundings.saying yes) (surroundings.saying no) where
  words := rfl
  levels := (surroundings.levels_saying no).trans (surroundings.levels_saying yes).symm
  script := rfl
  reveals := setup_saying affirms affirms start fun _ _ => rfl
  conceals := setup_saying denies affirms start unread

end Surroundings

/-! ### The program -/

namespace Carried

/-- A command that is carried out with commands hidden. -/
def muted : Carried → Carried
  | done code transcript crash => done code (Shown.withoutCommands transcript) crash
  | playing play => playing play.muted

theorem exit?_muted (carried : Carried) : carried.muted.exit? = carried.exit? := by
  cases carried <;> rfl

theorem transcript_muted (carried : Carried) :
    carried.muted.transcript = Shown.withoutCommands carried.transcript := by
  cases carried <;> rfl

theorem transcript_conclude (budget fuel : Nat) (input : String) (play : Play) :
    (conclude budget fuel input (.playing play)).transcript =
      (play.carryOn budget fuel (typedLines input)).transcript.toList := by
  rw [conclude]
  generalize play.carryOn budget fuel (typedLines input) = after
  cases status : after.status <;> rfl

/-- The events that a program gets from the run of its play when it is carried on. -/
def yields (budget fuel : Nat) (input : String) : Carried → List Event
  | playing play => play.yields budget fuel (typedLines input)
  | done _ _ _ => []

/-- The beginning of a program that shows commands: so far nothing has been asked, read or yielded,
and a play that goes on can be shown. -/
structure Opens (carried : Carried) : Prop where
  announced : ∀ item ∈ carried.transcript, item.Announced
  outspoken : ∀ play, carried = .playing play → play.isOver = false → play.Outspoken

theorem Opens.done {code : Nat} {items : List Shown} {crash : Option Crash}
    (announced : ∀ item ∈ items, item.Announced) : (done code items crash).Opens :=
  ⟨announced, by rintro _ ⟨⟩⟩

namespace Opens

variable {carried : Carried} (opens : carried.Opens)

include opens

theorem muted_conclude (budget fuel : Nat) (input : String) :
    (carried.conclude budget fuel input).muted = carried.muted.conclude budget fuel input := by
  cases carried with
  | done code transcript crash => rfl
  | playing play =>
    have step := Play.muted_carryOn budget fuel (typedLines input) (opens.outspoken play rfl)
    rw [conclude, muted, conclude, ← step]
    generalize play.carryOn budget fuel (typedLines input) = after
    have same : after.muted.status = after.status := rfl
    rw [same]
    cases after.status <;> rfl

/-- Whatever has been shown is in order. -/
theorem orderly_conclude (budget fuel : Nat) (input : String) :
    Shown.Orderly (carried.conclude budget fuel input).transcript := by
  have orderly := Shown.Orderly.of_reported fun item member =>
    (opens.announced item member).reported
  cases carried with
  | done code transcript crash => exact orderly
  | playing play =>
    have answered (_ : play.status = .going) :
        play.transcript.toList.getLast? ≠ some .prompt := fun last =>
      (opens.announced _ (List.mem_of_getLast? last)).unprompted rfl
    rw [transcript_conclude]
    exact (Play.Orderly.carryOn ⟨orderly, answered⟩ budget fuel (typedLines input)).transcript

/-- The events that have been shown are all that the run has yielded. -/
theorem events_conclude (budget fuel : Nat) (input : String) :
    Shown.events (carried.conclude budget fuel input).transcript =
      carried.yields budget fuel input := by
  have nothing := Shown.events_eq_nil fun item member => (opens.announced item member).uneventful
  cases carried with
  | done code items crash => exact nothing
  | playing play =>
    have before : Shown.events play.transcript.toList = [] := nothing
    rw [transcript_conclude, Play.events_carryOn budget fuel _ (opens.outspoken play rfl), before]
    rfl

/-- The lines that have been read are the first of the input. -/
theorem read_conclude (budget fuel : Nat) (input : String) :
    Shown.read (carried.conclude budget fuel input).transcript <+: typedLines input := by
  have unread := Shown.read_eq_nil fun item member => (opens.announced item member).untyped
  cases carried with
  | done code items crash =>
    have nothing : Shown.read items = [] := unread
    show Shown.read items <+: _
    rw [nothing]
    exact List.nil_prefix
  | playing play =>
    obtain ⟨rest, -, reads⟩ := play.carryOn_reads budget fuel (typedLines input)
    have nothing : Shown.read play.transcript.toList = [] := unread
    rw [nothing, List.nil_append] at reads
    rw [transcript_conclude]
    exact ⟨rest, reads⟩

end Opens

end Carried

/-- A dialogue without nodes that loads a file whose nodes are spelled has only such nodes. -/
theorem Dialogue.spelled_of_loadFile {Host : Type} {files : FileReader} {path : Path}
    {strict : Bool} {count : Nat} {dialogue loaded : Dialogue Host}
    (bare : dialogue.nodes.entries = [])
    (done : loadFile files path strict dialogue = .ok count loaded)
    (spelled : ∀ table, Script.loadFile files path = .ok table →
      ∀ node ∈ table.entries, node.Spelled) :
    ∀ node ∈ loaded.nodes.entries, node.Spelled := by
  intro node member
  rw [loadFile] at done
  obtain ⟨fault, world, failed⟩ | ⟨nodes, _, table, world, script, same, merged, -⟩ :=
    loadScript_spec (Script.loadFile files path) strict dialogue
  · rw [failed] at done
    cases done
  · rw [same] at done
    cases done
    obtain added | before := NodeTable.mem_merge merged member
    · obtain ⟨⟨name, node⟩, there, rfl⟩ := List.mem_map.1 added
      exact spelled _ script node (NodeTable.mem_toLedger.1 there).1
    · rw [bare] at before
      cases before

namespace Command

variable {surroundings : Surroundings} {script : String} {start : Option String}
  {bindings : List String} {levels : LogLevels} {settings : Settings}

/-- A play is started as its setup says. -/
theorem carryOutPlay_eq (surroundings : Surroundings) (script : String) (start : Option String)
    (bindings : List String) :
    carryOutPlay surroundings script start bindings =
      match surroundings.levels, surroundings.setup start with
      | .error crash, _ => crashed [] crash
      | .ok _, .error crash => crashed [] crash
      | .ok _, .ok (lines, .error crash) => crashed (lines.map Shown.unreadableSetting) crash
      | .ok levels, .ok (lines, .ok settings) =>
        startPlay surroundings script bindings levels settings
          (lines.map Shown.unreadableSetting) := by
  rw [carryOutPlay, Surroundings.setup]
  cases surroundings.levels with
  | error crash => rfl
  | ok levels =>
    cases surroundings.settingsText with
    | error crash => rfl
    | ok text =>
      dsimp only [bind, Except.bind, pure, Except.pure, Except.map]
      cases surroundings.settings text start <;> rfl

theorem announced_unreadable (lines : List Nat) :
    ∀ item ∈ lines.map Shown.unreadableSetting, item.Announced := by
  intro item member
  obtain ⟨line, -, rfl⟩ := List.mem_map.1 member
  exact ⟨by rintro ⟨⟩, rfl, rfl⟩

theorem withoutCommands_unreadable (lines : List Nat) :
    Shown.withoutCommands (lines.map .unreadableSetting) = lines.map .unreadableSetting :=
  Shown.withoutCommands_eq_self fun item member =>
    (announced_unreadable lines item member).uncommanding

/-- A play before anything has been noted. -/
def opening (given : Ledger Text Literal) (levels : LogLevels) (settings : Settings)
    (lines : List Nat) : Play where
  dialogue := Dialogue.new (Binding.toStore given) () true true
  run := { stage := .ended }
  settings := settings
  levels := levels
  transcript := (lines.map Shown.unreadableSetting).toArray

/-- Loads a script and starts a run over it. -/
def launching (surroundings : Surroundings) (path : Path) (settings : Settings) :
    Operation Unit Run := do
  let _ ← Dialogue.loadFile surroundings.files path settings.strictFunctions
  Dialogue.run settings.startNode

/-- What comes of a play when a run is started, or when that fails. -/
def launch (play : Play) : EStateM.Result Fault (Dialogue Unit) Run → Play
  | .ok run dialogue => { play with run, dialogue }.showJournal
  | .error fault dialogue => { play with dialogue }.showJournal.fail fault

theorem startPlay_eq (surroundings : Surroundings) (script : String) (bindings : List String)
    (levels : LogLevels) (settings : Settings) (lines : List Nat) :
    startPlay surroundings script bindings levels settings (lines.map Shown.unreadableSetting) =
      match Binding.ofList bindings with
      | .error (.nameless _) => mistake
      | .error fault => crashed (lines.map Shown.unreadableSetting) (.binding fault)
      | .ok given =>
        let play := (opening given levels settings lines).note
          (.playStarted (Path.ofString script).toText settings.startNode)
        .playing (launch play
          (launching surroundings (Path.ofString script) settings play.dialogue)) := by
  rw [startPlay]
  cases Binding.ofList bindings with
  | error fault => cases fault <;> rfl
  | ok given =>
    have launched (play : Play) (outcome : EStateM.Result Fault (Dialogue Unit) Run) :
        (match outcome with
          | .ok run dialogue => Carried.playing { play with run, dialogue }.showJournal
          | .error fault dialogue => .playing ({ play with dialogue }.showJournal.fail fault)) =
        .playing (launch play outcome) := by
      cases outcome <;> rfl
    exact launched _ _

theorem muted_opening (given : Ledger Text Literal) (levels : LogLevels) (settings : Settings)
    (lines : List Nat) : (opening given levels settings lines).muted =
      opening given levels (settings.withCommands false) lines := by
  have quiet := withoutCommands_unreadable lines
  rw [opening, Play.muted, quiet, opening]

theorem muted_launch (play : Play) (outcome : EStateM.Result Fault (Dialogue Unit) Run) :
    (launch play outcome).muted = launch play.muted outcome := by
  cases outcome with
  | ok run dialogue => exact Play.muted_showJournal { play with run, dialogue }
  | error fault dialogue =>
    rw [launch, launch, Play.muted_fail, Play.muted_showJournal]
    rfl

/-- Where commands are hidden, a play is started in the same way. -/
theorem muted_startPlay {shown hidden : Surroundings}
    (same : hidden.files (Path.ofString script) = shown.files (Path.ofString script))
    (bindings : List String) (levels : LogLevels) (settings : Settings) (lines : List Nat) :
    (startPlay shown script bindings levels settings (lines.map .unreadableSetting)).muted =
      startPlay hidden script bindings levels (settings.withCommands false)
        (lines.map .unreadableSetting) := by
  have launches : launching hidden (Path.ofString script) (settings.withCommands false) =
      launching shown (Path.ofString script) settings := by
    rw [launching, launching, Dialogue.loadFile, Dialogue.loadFile, Script.loadFile,
      Script.loadFile, same]
    rfl
  rw [startPlay_eq, startPlay_eq]
  cases Binding.ofList bindings with
  | error fault =>
    cases fault with
    | nameless text => rfl
    | _ => exact congrArg (Carried.done 1 · _) (withoutCommands_unreadable lines)
  | ok given =>
    have noted (note : Note) :
        (opening given levels (settings.withCommands false) lines).note note =
          ((opening given levels settings lines).note note).muted := by
      rw [Play.muted_note, muted_opening]
    dsimp only [Carried.muted]
    rw [launches, noted, muted_launch]
    rfl

theorem shows_launch (play : Play) (outcome : EStateM.Result Fault (Dialogue Unit) Run) :
    play.Shows Shown.Announced (launch play outcome) := by
  cases outcome with
  | ok run dialogue => exact Play.Shows.showJournal { play with run, dialogue }
  | error fault dialogue =>
    exact (Play.Shows.showJournal { play with dialogue }).trans (.fail _ fault)

/-- Unless it fails, a play that shows commands goes on showing them with a run over a script whose
nodes are spelled. -/
theorem outspoken_launch {path : Path} {play : Play} (outspoken : play.Outspoken)
    (bare : play.dialogue.nodes.entries = []) (named : settings.startNode.isString = true)
    (spelled : ∀ table, Script.loadFile surroundings.files path = .ok table →
      ∀ node ∈ table.entries, node.Spelled)
    (ongoing : (launch play (launching surroundings path settings play.dialogue)).isOver = false) :
    (launch play (launching surroundings path settings play.dialogue)).Outspoken := by
  rw [launching, bind_apply] at ongoing ⊢
  cases done : Dialogue.loadFile surroundings.files path settings.strictFunctions play.dialogue with
  | error fault dialogue =>
    rw [done, launch, Play.isOver_fail] at ongoing
    cases ongoing
  | ok count loaded =>
    have read := outspoken.dialogue.loadFile done (Dialogue.spelled_of_loadFile bare done spelled)
    have begun : { play with
        run := { stage := .unstarted settings.startNode }
        dialogue := loaded.begun settings.startNode }.Outspoken :=
      ⟨outspoken.commands, read.begun named, named⟩
    dsimp only
    rw [Dialogue.run_apply _ read.heard]
    exact begun.showJournal

/-- A play starts with what may be shown at any time, and goes on showing commands. -/
theorem startPlay_opens (commands : settings.showCommands = true)
    (named : settings.startNode.isString = true)
    (spelled : ∀ table, Script.loadFile surroundings.files (Path.ofString script) = .ok table →
      ∀ node ∈ table.entries, node.Spelled) (lines : List Nat) :
    (startPlay surroundings script bindings levels settings
      (lines.map Shown.unreadableSetting)).Opens := by
  rw [startPlay_eq]
  cases Binding.ofList bindings with
  | error fault =>
    cases fault with
    | nameless text => exact .done (by rintro _ ⟨⟩)
    | _ => exact .done (announced_unreadable lines)
  | ok given =>
    dsimp only
    generalize announced : Note.playStarted (Path.ofString script).toText settings.startNode = note
    generalize before : opening given levels settings lines = play
    have names : ∀ name ∈ note.names, name.isString = true := by
      subst announced
      exact List.forall_mem_cons.2 ⟨Text.isString_ofString _, List.forall_mem_singleton.2 named⟩
    have fresh : play.dialogue.Legible := before ▸ Dialogue.legible_new (Binding.toStore given) ()
    have outspoken : { play with dialogue := play.dialogue.changeWorld (·.note note) }.Outspoken :=
      ⟨before ▸ commands, fresh.note note names, before ▸ trivial⟩
    have bare : (play.note note).dialogue.nodes.entries = [] := by
      have same : (play.note note).dialogue =
          (play.dialogue.changeWorld (·.note note)).unreported :=
        Play.dialogue_showJournal (before ▸ rfl) outspoken.dialogue.world.journal
      rw [same, ← before]
      rfl
    have shown := (Play.Shows.note play note).trans
      (shows_launch _ (launching surroundings (Path.ofString script) settings
        (play.note note).dialogue))
    refine ⟨shown.all_of_all (before ▸ announced_unreadable lines), ?_⟩
    rintro _ ⟨⟩ ongoing
    exact outspoken_launch outspoken.showJournal bare named spelled ongoing

/-- Whatever a play that shows commands is set up with, it starts with what may be shown at any
time. -/
theorem carryOutPlay_opens
    (reveals : surroundings.setup start = (surroundings.setup start).withCommands true)
    (spelled : ∀ table, Script.loadFile surroundings.files (Path.ofString script) = .ok table →
      ∀ node ∈ table.entries, node.Spelled) :
    (carryOutPlay surroundings script start bindings).Opens := by
  rw [carryOutPlay_eq]
  cases surroundings.levels with
  | error crash => exact .done (by rintro _ ⟨⟩)
  | ok levels =>
    rw [Surroundings.setup] at reveals ⊢
    cases read : surroundings.settingsText with
    | error crash => exact .done (by rintro _ ⟨⟩)
    | ok text =>
      rw [read] at reveals
      dsimp only [Except.map] at reveals ⊢
      cases set : surroundings.settings text start with
      | error crash => exact .done (announced_unreadable _)
      | ok settings =>
        rw [set] at reveals
        have commands : settings = settings.withCommands true :=
          Except.ok.inj (congrArg Prod.snd (Except.ok.inj reveals))
        refine startPlay_opens ?_ (Surroundings.isString_startNode set) spelled _
        rw [commands]
        rfl

/-- In surroundings that differ in whether commands are shown, a play is carried out in the same way
but for the commands. -/
theorem muted_carryOutPlay {shown hidden : Surroundings}
    (differ : Surroundings.DifferInCommands script start shown hidden) (bindings : List String) :
    (carryOutPlay shown script start bindings).muted =
      carryOutPlay hidden script start bindings := by
  rw [carryOutPlay_eq, carryOutPlay_eq, differ.levels, differ.conceals]
  cases shown.levels with
  | error crash => rfl
  | ok levels =>
    cases shown.setup start with
    | error crash => rfl
    | ok setup =>
      obtain ⟨lines, crash | settings⟩ := setup
      · exact congrArg (Carried.done 1 · _) (withoutCommands_unreadable lines)
      · exact muted_startPlay differ.script bindings levels settings lines

end Command

/-- What two programs come to with the same input, of which the first shows commands and the second
hides them. The run of the first has yielded some events. -/
structure Carried.DifferInCommands (yielded : List Event) (input : String)
    (shown hidden : Carried) : Prop where
  /-- They end together, with the same exit code and for the same reason. -/
  exit : hidden.exit? = shown.exit?
  /-- The first has shown all the events. -/
  events : Shown.events shown.transcript = yielded
  /-- Of what the first has shown, the second has shown everything but the commands. -/
  transcript : hidden.transcript = Shown.withoutCommands shown.transcript
  /-- So on every console the screens are the same but for what is seen of the commands. -/
  screen : ∀ console echo,
    Screen.render echo shown.transcript console =
        String.join ((Screen.parts console echo shown.transcript).map Prod.snd) ∧
      Screen.render echo hidden.transcript console =
        String.join (((Screen.parts console echo shown.transcript).filter fun seen =>
          !seen.1.isCommand).map Prod.snd)
  /-- They have read the same lines, the first of the input. -/
  read : Shown.read hidden.transcript = Shown.read shown.transcript
  within : Shown.read shown.transcript <+: typedLines input
  /-- The command `stop` is shown by neither. -/
  unstopped : .event (.command Dialogue.stopCommand) ∉ shown.transcript ∧
    .event (.command Dialogue.stopCommand) ∉ hidden.transcript

namespace Command

/-- Hiding commands hides nothing else. -/
theorem play_hides_only_commands {shown hidden : Surroundings} {script : String}
    {start : Option String} {bindings : List String}
    (asked : ofWords shown.words = .play script start bindings)
    (differ : Surroundings.DifferInCommands script start shown hidden)
    (spelled : ∀ table, Script.loadFile shown.files (Path.ofString script) = .ok table →
      ∀ node ∈ table.entries, node.Spelled) (budget fuel : Nat) (input : String) :
    Carried.DifferInCommands ((carryOut shown).yields budget fuel input) input
      ((carryOut shown).conclude budget fuel input)
      ((carryOut hidden).conclude budget fuel input) := by
  have readable : hidden.isFile script = shown.isFile script := by
    rw [Surroundings.isFile, Surroundings.isFile, differ.script]
  have opens : (carryOut shown).Opens := by
    rw [carryOut, asked]
    dsimp only
    split
    · exact carryOutPlay_opens differ.reveals spelled
    · exact .done (by rintro _ ⟨⟩)
  have muted : (carryOut shown).muted = carryOut hidden := by
    rw [carryOut, carryOut, differ.words, asked]
    dsimp only
    rw [readable]
    split
    · exact muted_carryOutPlay differ bindings
    · rfl
  have step := opens.muted_conclude budget fuel input
  have orderly := opens.orderly_conclude budget fuel input
  have within := opens.read_conclude budget fuel input
  have events := opens.events_conclude budget fuel input
  rw [← muted, ← step]
  generalize (carryOut shown).conclude budget fuel input = outcome at orderly within events
  refine ⟨outcome.exit?_muted, events, outcome.transcript_muted, fun console echo => ?_, ?_, within,
    ?_⟩
  · rw [outcome.transcript_muted, ← Screen.parts_withoutCommands console echo orderly,
      Screen.join_parts, Screen.join_parts]
    exact ⟨rfl, rfl⟩
  · rw [outcome.transcript_muted, Shown.read_withoutCommands]
  · rw [outcome.transcript_muted]
    exact ⟨orderly.unstopped, fun member => orderly.unstopped (List.mem_of_mem_filter member)⟩

theorem play_hides_only_commands_gate :
    ofWords (gateSurroundings.saying "yes").words = .play "gate.json" (some "Gate") ["gold=3"] ∧
    Surroundings.DifferInCommands "gate.json" (some "Gate") (gateSurroundings.saying "yes")
      (gateSurroundings.saying "no") ∧
    (∀ table, Script.loadFile (gateSurroundings.saying "yes").files (Path.ofString "gate.json") =
      .ok table → ∀ node ∈ table.entries, node.Spelled) ∧
    ∀ budget fuel input, Carried.DifferInCommands
      ((carryOut (gateSurroundings.saying "yes")).yields budget fuel input) input
      ((carryOut (gateSurroundings.saying "yes")).conclude budget fuel input)
      ((carryOut (gateSurroundings.saying "no")).conclude budget fuel input) := by
  have asked : ofWords (gateSurroundings.saying "yes").words =
      .play "gate.json" (some "Gate") ["gold=3"] := rfl
  have differ : Surroundings.DifferInCommands "gate.json" (some "Gate")
      (gateSurroundings.saying "yes") (gateSurroundings.saying "no") := by
    refine Surroundings.differInCommands_saying _ _ (by cbv) (by cbv) ?_
    rintro _ ⟨⟩
    rw [Dotenv.read_nil, Dotenv.read_nil]
  have spelled : ∀ table, Script.loadFile (gateSurroundings.saying "yes").files
      (Path.ofString "gate.json") = .ok table → ∀ node ∈ table.entries, node.Spelled := by
    have same : (gateSurroundings.saying "yes").files = gateSurroundings.files := rfl
    intro table loaded
    rw [same, loadFile_gate] at loaded
    cases loaded
    exact spelled_gate
  exact ⟨asked, differ, spelled, play_hides_only_commands asked differ spelled⟩

end Command

end Parley
