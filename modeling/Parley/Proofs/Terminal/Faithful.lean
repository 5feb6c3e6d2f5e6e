/-
This file settles that the terminal is a faithful host. Where a script loads, and texts
that are no strings stand nowhere in it, the play that a command line asks for stands to a
run over the script as the plays do that were compared with a player; so the program prints
what comes to the player, the log and the prompts aside, and ends as it ends for the player.

The rest is to get there. What is loaded can be shown, the start that the settings name is
a string, and the journal of the dialogue is empty again when the script is read, since
the note that the play begins has been shown by then.
-/

import Parley.Proofs.Script.Image
import Parley.Proofs.Terminal.Listing
import Parley.Proofs.Terminal.Printing
import Parley.Proofs.Text.Utf8

namespace Parley

/-! ### What is loaded -/

/-- The texts in the body of a node, and the names of the functions that it calls, are strings. -/
structure Node.Spelled (node : Node) : Prop where
  texts : ∀ part ∈ Statement.blockParts node.body, ∀ text ∈ part.texts, text.isString = true
  calls : ∀ name ∈ Statement.blockCalls node.body, name.isString = true

theorem Script.ofDocument_of_loadFile {files : FileReader} {path : Path} {table : NodeTable}
    (loaded : loadFile files path = .ok table) :
    ∃ document, ofDocument document = .ok table := by
  rw [loadFile] at loaded
  split at loaded
  · cases loaded
  · exact ofDocument_of_ofBytes loaded

theorem Node.Spelled.legible {node : Node} (spelled : node.Spelled) {document : Json}
    {table : NodeTable} (loaded : Script.ofDocument document = .ok table)
    (member : node ∈ table.entries) : node.Legible where
  left := Script.isString_name_of_ofDocument loaded member
  right := ⟨spelled.texts, Script.resolves_of_ofDocument loaded member spelled.calls⟩

namespace Dialogue

variable {Host : Type}

/-- A dialogue can be shown with the nodes of a file if these are spelled. -/
theorem Legible.loadFile {files : FileReader} {path : Path} {strict : Bool} {count : Nat}
    {dialogue loaded : Dialogue Host} (legible : dialogue.Legible)
    (done : loadFile files path strict dialogue = .ok count loaded)
    (spelled : ∀ node ∈ loaded.nodes.entries, node.Spelled) : loaded.Legible := by
  rw [Dialogue.loadFile] at done
  refine legible.loadScript done fun node member => ?_
  obtain ⟨fault, world, failed⟩ | ⟨nodes, _, table, world, script, same, merged, -⟩ :=
    loadScript_spec (Script.loadFile files path) strict dialogue
  · rw [failed] at done
    cases done
  · rw [same] at done
    cases done
    obtain ⟨document, made⟩ := Script.ofDocument_of_loadFile script
    obtain added | before := NodeTable.mem_merge merged member
    · obtain ⟨⟨name, node⟩, there, rfl⟩ := List.mem_map.1 added
      exact (spelled node member).legible made (NodeTable.mem_toLedger.1 there).1
    · exact legible.nodes node before

end Dialogue

/-! ### The start -/

namespace Settings

variable {overrides : Ledger String Literal} {environment file : Ledger String (Option String)}

/-- What is given for a setting is a string if what the call gives is one. -/
theorem isString_of_given
    (called : ∀ entry ∈ overrides.entries, ∀ text, entry.2 = .string text → text.isString = true)
    {setting : String} {text : Text}
    (given : given? overrides environment file setting = some (.string text)) :
    text.isString = true := by
  have outer {found : Option String}
      (same : (found.bind fun given => some (Text.ofString given)).map Literal.string =
        some (.string text)) :
      text.isString = true := by
    cases found with
    | none => cases same
    | some there =>
      cases same
      exact Text.isString_ofString there
  rw [given?, Option.orElse_eq_some, Option.orElse_eq_some] at given
  obtain (overridden | ⟨-, found⟩) | ⟨-, found⟩ := given
  · obtain ⟨⟨name, value⟩, member, same⟩ := List.exists_of_findSome?_eq_some overridden
    refine called _ member text ?_
    split at same
    · cases same
    · next there =>
      cases there
      split at same <;> cases same
      rfl
  · exact outer found
  · exact outer found

theorem eq_string_of_name {given : Literal} {start : Text} (named : name given = .ok start) :
    given = .string start := by
  rw [name.eq_def] at named
  split at named
  · split at named <;> cases named
    rfl
  · cases named

theorem isString_startNode {environment : List (String × String)} {text : List Char}
    (called : ∀ entry ∈ overrides.entries, ∀ text, entry.2 = .string text → text.isString = true)
    {settings : Settings} (set : load overrides environment text = .ok settings) :
    settings.startNode.isString = true := by
  rw [load] at set
  split at set
  · next startNode _ _ start _ _ =>
    cases set
    rw [choose.eq_def] at start
    split at start
    · next given there =>
      rw [eq_string_of_name start] at there
      exact isString_of_given called there
    · cases start
      exact Text.isString_ofString _
  · cases set

end Settings

/-- The start that the settings name is a string. -/
theorem Surroundings.isString_startNode {surroundings : Surroundings} {text : List Char}
    {start : Option String} {settings : Settings}
    (set : surroundings.settings text start = .ok settings) :
    settings.startNode.isString = true := by
  rw [Surroundings.settings.eq_def] at set
  dsimp only at set
  generalize overriding : (match start with
    | some name => Roster.empty.insert ("start_node", .string name)
    | none => Roster.empty : Ledger String Literal) = overrides at set
  split at set
  · next loaded =>
    cases set
    refine Settings.isString_startNode (fun entry member text same => ?_) loaded
    cases start with
    | none =>
      subst overriding
      cases member
    | some name =>
      subst overriding
      obtain rfl := List.mem_singleton.1 member
      cases same
      exact Text.isString_ofString name
  · cases set

/-! ### Beginning to play -/

namespace Command

variable {surroundings : Surroundings} {script : String} {start : Option String}
  {bindings : List String} {levels : LogLevels} {text : List Char} {settings : Settings}

theorem carryOut_play (asked : ofWords surroundings.words = .play script start bindings)
    (readable : surroundings.isFile script = true) (filtered : surroundings.levels = .ok levels)
    (read : surroundings.settingsText = .ok text)
    (set : surroundings.settings text start = .ok settings) :
    carryOut surroundings = startPlay surroundings script bindings levels settings
      ((Dotenv.unreadableLines text).map Shown.unreadableSetting) := by
  rw [carryOut, asked]
  dsimp only
  rw [if_pos readable, carryOutPlay, filtered, read]
  dsimp only [bind, Except.bind, pure, Except.pure]
  rw [set]

theorem isFile_of_loadFile {table : NodeTable}
    (loaded : Script.loadFile surroundings.files (Path.ofString script) = .ok table) :
    surroundings.isFile script = true := by
  rw [Script.loadFile] at loaded
  split at loaded
  · cases loaded
  · next readable =>
    rw [Surroundings.isFile, readable]
    rfl

/-- A play starts with a run over the script, and only what cannot be read of the settings file and
lines of the log have been shown. -/
theorem startPlay_stands {given : Ledger Text Literal} {count : Nat} {loaded : Dialogue Unit}
    (bound : Binding.ofList bindings = .ok given)
    (done : Dialogue.loadFile surroundings.files (Path.ofString script) settings.strictFunctions
      (Dialogue.new (Binding.toStore given) () true true) = .ok count loaded)
    (spelled : ∀ node ∈ loaded.nodes.entries, node.Spelled)
    (named : settings.startNode.isString = true) (lines : List Nat) :
    ∃ play, startPlay surroundings script bindings levels settings
        (lines.map Shown.unreadableSetting) = .playing play ∧
      play.Stands .going settings.showCommands { stage := .unstarted settings.startNode }
        (loaded.begun settings.startNode) [] := by
  have fresh : (Dialogue.new (Binding.toStore given) () true true).Legible :=
    Dialogue.legible_new _ ()
  have legible := fresh.loadFile done spelled
  generalize announced : Note.playStarted (Path.ofString script).toText settings.startNode = note
  have names : ∀ name ∈ note.names, name.isString = true := by
    subst announced
    exact List.forall_mem_cons.2 ⟨Text.isString_ofString _, List.forall_mem_singleton.2 named⟩
  have unseen : (lines.map Shown.unreadableSetting).filter Shown.isContent = [] := by
    rw [List.filter_eq_nil_iff]
    rintro _ member shown
    obtain ⟨line, -, rfl⟩ := List.mem_map.1 member
    cases shown
  rw [startPlay, bound]
  dsimp only
  rw [announced]
  generalize opening : Play.mk (Dialogue.new (Binding.toStore given) () true true)
    { stage := .ended } settings levels (lines.map Shown.unreadableSetting).toArray .going = play
  have stands : play.Stands .going settings.showCommands { stage := .ended }
      (Dialogue.new (Binding.toStore given) () true true) [] := by
    have alike := Pairing.dialogues_alike (World.SameButJournal.refl play.dialogue.world)
    subst opening
    exact ⟨rfl, rfl, rfl, alike, unseen, fresh, trivial⟩
  have noted := stands.note (Play.isOver_of_going stands.status) note names
  have again : (play.note note).dialogue = Dialogue.new (Binding.toStore given) () true true := by
    subst opening
    exact Play.dialogue_showJournal rfl (fresh.note note names).world.journal
  rw [again, bind_apply, done]
  dsimp only
  rw [Dialogue.run_apply _ legible.heard]
  refine ⟨_, rfl, Play.Stands.showJournal ?_ (Play.isOver_of_going noted.status)⟩
  exact { noted with
    run := rfl
    dialogue := Pairing.dialogues_alike (World.SameButJournal.refl _)
    legible := legible.begun named
    left := named }

end Command

/-! ### How the end is told -/

/-- An exit code and what has been shown tell how it has ended: that the run was stopped at a node
is shown if and only if it has ended there by being broken off, a failure if and only if a pull has
failed with it, and that the play was given up if and only if there was nothing more to read. -/
structure PlayEnd.ToldBy (code : Nat) (content : List Shown) (ending : PlayEnd) : Prop where
  code : code = 0 ∧ (∃ phase current, ending = .ended phase current) ∨
    code = 1 ∧ ((∃ fault, ending = .fault fault) ∨ ending = .inputEnded)
  stopped : ∀ current, .stopped current ∈ content ↔ ending = .ended .aborted current
  failure : ∀ message, .failure message ∈ content ↔
    ∃ fault, ending = .fault fault ∧ fault.message = message
  abandoned : .abandoned ∈ content ↔ ending = .inputEnded

/-- What is shown of the end alone tells how it has ended. -/
theorem PlayEnd.toldBy_shown {ending : PlayEnd} (foreseen : ending.Foreseen) :
    ending.ToldBy ending.code ending.shown := by
  cases ending with
  | refused fault => cases foreseen
  | inputEnded =>
    refine ⟨.inr ⟨rfl, .inr rfl⟩, fun current => ?_, fun message => ?_, ?_⟩ <;> simp [shown]
  | fault fault =>
    refine ⟨.inr ⟨rfl, .inl ⟨fault, rfl⟩⟩, fun current => ?_, fun message => ?_, ?_⟩ <;>
      simp [shown, eq_comm]
  | ended phase current =>
    refine ⟨.inl ⟨rfl, phase, current, rfl⟩, fun current => ?_, fun message => ?_, ?_⟩ <;>
      by_cases phase = .aborted <;> simp_all [shown, eq_comm]

theorem Happening.shown_cases {commands : Bool} {happening : Happening} {item : Shown}
    (member : item ∈ happening.shown commands) :
    (∃ event, item = .event event) ∨ ∃ count, item = .outOfRange count := by
  cases happening with
  | outOfRange count => exact .inr ⟨count, List.mem_singleton.1 member⟩
  | event event =>
    refine .inl ?_
    cases event with
    | line text => exact ⟨_, List.mem_singleton.1 member⟩
    | options texts => exact ⟨_, List.mem_singleton.1 member⟩
    | command text =>
      rw [shown, Event.shown] at member
      split at member
      · exact ⟨_, List.mem_singleton.1 member⟩
      · cases member

theorem Played.toldBy {commands : Bool} {played : Played} {ending : PlayEnd}
    (ended : played.ending = some ending) (foreseen : ending.Foreseen) :
    ending.ToldBy ending.code (played.shown commands) := by
  have latest (item : Shown) (noEvent : ∀ event, item ≠ .event event)
      (inRange : ∀ count, item ≠ .outOfRange count) :
      item ∈ played.shown commands ↔ item ∈ ending.shown := by
    rw [shown, ended, List.mem_append]
    refine or_iff_right fun member => ?_
    obtain ⟨happening, -, there⟩ := List.mem_flatMap.1 member
    obtain ⟨event, same⟩ | ⟨count, same⟩ := Happening.shown_cases there
    · exact noEvent event same
    · exact inRange count same
  have told : ending.ToldBy ending.code ending.shown := PlayEnd.toldBy_shown foreseen
  refine ⟨told.code, fun current => ?_, fun message => ?_, ?_⟩
  · refine (latest (.stopped current) ?_ ?_).trans (told.stopped current) <;> rintro _ ⟨⟩
  · refine (latest (.failure message) ?_ ?_).trans (told.failure message) <;> rintro _ ⟨⟩
  · refine (latest .abandoned ?_ ?_).trans told.abandoned <;> rintro _ ⟨⟩

/-! ### The program -/

namespace Carried

/-- What has been shown. -/
def transcript : Carried → List Shown
  | done _ transcript _ => transcript
  | playing play => play.transcript.toList

/-- What has been shown, the log and the prompts aside. -/
def content : Carried → List Shown
  | done _ transcript _ => transcript.filter Shown.isContent
  | playing play => play.content

/-- What is seen of it on a console. -/
def printed (console : Console) (echo : Bool) (carried : Carried) : String :=
  Screen.printed console echo carried.transcript

theorem printed_eq (console : Console) (echo : Bool) (carried : Carried) :
    carried.printed console echo =
      String.join (carried.content.map (Shown.render console echo)) := by
  rw [printed, Screen.printed_eq]
  cases carried <;> rfl

/-- The exit code and the crash, if there is one, of what has ended. -/
def exit? : Carried → Option (Nat × Option Crash)
  | done code _ crash => some (code, crash)
  | playing _ => none

/-- What has been shown, and how it has ended, is the same for the program as for the play. -/
theorem conclude_playing (budget fuel : Nat) (input : String) (play : Play) :
    (conclude budget fuel input (.playing play)).content =
        (play.carryOn budget fuel (typedLines input)).content ∧
      (conclude budget fuel input (.playing play)).exit? =
        (play.carryOn budget fuel (typedLines input)).exit? := by
  rw [conclude]
  generalize play.carryOn budget fuel (typedLines input) = after
  cases status : after.status with
  | ended code crash =>
    rw [Play.exit?, status]
    exact ⟨rfl, rfl⟩
  | _ =>
    rw [Play.exit?, status]
    exact ⟨rfl, rfl⟩

end Carried

/-- A program has shown what a terminal shows of all that has come to a player, and on every console
it looks as it is to be printed. -/
structure Carried.Renders (commands : Bool) (played : Played) (carried : Carried) : Prop where
  content : carried.content = played.shown commands
  printed : ∀ console echo, carried.printed console echo = played.printed console commands

theorem Carried.Renders.of_content {commands : Bool} {played : Played} {carried : Carried}
    (content : carried.content = played.shown commands) : carried.Renders commands played where
  content := content
  printed console echo := by rw [printed_eq, content, Played.join_shown]

/-- What has been shown is a beginning of what comes to a player, and so is what is printed of it. -/
structure Carried.Begins (commands : Bool) (played : Played) (carried : Carried) : Prop where
  content : carried.content <+: played.shown commands
  printed : ∀ console echo, ∃ rest,
    carried.printed console echo ++ rest = played.printed console commands

theorem Carried.Begins.of_content {commands : Bool} {played : Played} {carried : Carried}
    (content : carried.content <+: played.shown commands) : carried.Begins commands played where
  content := content
  printed console echo := by
    obtain ⟨rest, whole⟩ := content
    refine ⟨String.join (rest.map (Shown.render console echo)), ?_⟩
    rw [printed_eq, ← String.join_append, ← List.map_append, whole, Played.join_shown]

/-- A program, carried on for any number of steps, is faithful to a player with any number of pulls.
What is on its screen is made of what is seen of the items that it has shown. As far as the player
comes, the program comes as well, printing what comes to the player and ending if and as it ends;
whatever the program shows on the way is a beginning of that, and where it has ended, this tells how
it has ended for the player. -/
structure Faithful (commands : Bool) (carried : Nat → Carried) (played : Nat → Played) :
    Prop where
  screen : ∀ fuel console echo, Screen.render echo (carried fuel).transcript console =
    String.join ((Screen.parts console echo (carried fuel).transcript).map Prod.snd)
  reaches : ∀ pulls, ∃ fuel, (carried fuel).Renders commands (played pulls) ∧
    (carried fuel).exit? = (played pulls).exit?
  within : ∀ fuel, ∃ pulls, (carried fuel).Begins commands (played pulls)
  ends : ∀ fuel code crash, (carried fuel).exit? = some (code, crash) → crash = none ∧
    ∃ pulls ending, (played pulls).ending = some ending ∧
      (carried fuel).Renders commands (played pulls) ∧
      ending.ToldBy code (carried fuel).content
  foreseen : ∀ pulls ending, (played pulls).ending = some ending → ending.Foreseen

theorem Play.Stands.faithful {commands : Bool} {run : Run} {dialogue : Dialogue Unit} {play : Play}
    (stands : play.Stands .going commands run dialogue []) (budget : Nat) (input : String) :
    Faithful commands (fun fuel => Carried.conclude budget fuel input (.playing play))
      fun pulls => run.played budget pulls dialogue (typedLines input) where
  screen _ console echo := (Screen.join_parts console echo _).symm
  reaches pulls := by
    obtain ⟨fuel, agrees, -, -⟩ := stands.reaches budget pulls (typedLines input)
    obtain ⟨content, exit⟩ := Carried.conclude_playing budget fuel input play
    exact ⟨fuel, .of_content (content.trans agrees.content), exit.trans agrees.exit⟩
  within fuel := by
    obtain ⟨pulls, further, -⟩ := stands.within budget fuel (typedLines input)
    rw [← (Carried.conclude_playing budget fuel input play).1] at further
    exact ⟨pulls, .of_content further⟩
  ends fuel code crash ended := by
    obtain ⟨content, exit⟩ := Carried.conclude_playing budget fuel input play
    obtain ⟨pulls, -, agrees⟩ := stands.within budget fuel (typedLines input)
    obtain ⟨-, -, -, foreseen⟩ := stands.reaches budget pulls (typedLines input)
    rw [exit] at ended
    have there := agrees (by rw [ended]; rintro ⟨⟩)
    have exits := there.exit
    rw [ended, Played.exit?] at exits
    obtain ⟨ending, finished, same⟩ := Option.map_eq_some_iff.1 exits.symm
    cases same
    have renders := Carried.Renders.of_content (content.trans there.content)
    refine ⟨rfl, pulls, ending, finished, renders, ?_⟩
    rw [renders.content]
    exact Played.toldBy finished (foreseen ending finished)
  foreseen pulls := by
    obtain ⟨-, -, -, foreseen⟩ := stands.reaches budget pulls (typedLines input)
    exact foreseen

namespace Command

/-- Playing a script that loads is faithful to a run over it. -/
theorem play_faithful {surroundings : Surroundings} {script : String} {start : Option String}
    {bindings : List String} {levels : LogLevels} {text : List Char} {settings : Settings}
    {given : Ledger Text Literal} {count : Nat} {loaded : Dialogue Unit}
    (asked : ofWords surroundings.words = .play script start bindings)
    (filtered : surroundings.levels = .ok levels) (read : surroundings.settingsText = .ok text)
    (set : surroundings.settings text start = .ok settings)
    (bound : Binding.ofList bindings = .ok given)
    (done : Dialogue.loadFile surroundings.files (Path.ofString script) settings.strictFunctions
      (Dialogue.new (Binding.toStore given) () true true) = .ok count loaded)
    (spelled : ∀ node ∈ loaded.nodes.entries, node.Spelled) :
    ∃ run started, Dialogue.run settings.startNode loaded = .ok run started ∧
      ∀ budget input, Faithful settings.showCommands
        (fun fuel => (carryOut surroundings).conclude budget fuel input)
        fun pulls => run.played budget pulls started (typedLines input) := by
  have named := Surroundings.isString_startNode set
  have legible := ((Dialogue.legible_new (Binding.toStore given) ()).loadFile done spelled)
  have readable : surroundings.isFile script = true := by
    obtain ⟨fault, world, failed⟩ | ⟨table, _, _, _, found, -⟩ := Dialogue.loadScript_spec
      (Script.loadFile surroundings.files (Path.ofString script)) settings.strictFunctions
      (Dialogue.new (Binding.toStore given) () true true)
    · rw [Dialogue.loadFile, failed] at done
      cases done
    · exact isFile_of_loadFile found
  obtain ⟨play, begun, stands⟩ := startPlay_stands bound done spelled named
    (Dotenv.unreadableLines text)
  refine ⟨_, _, Dialogue.run_apply _ legible.heard, fun budget input => ?_⟩
  rw [carryOut_play asked readable filtered read set, begun]
  exact stands.faithful budget input

/-- A script that offers two replies behind a command. One goes to a node that does not exist. -/
def gateText : String :=
  "[\x7b\"title\": \"Gate\", \"body\": [\x7b\"command\": \"knock\"\x7d, \x7b\"options\": " ++
    "[\x7b\"text\": \"Enter\", \"jump\": \"Hall\"\x7d, \x7b\"text\": \"Leave\"\x7d]\x7d]\x7d]"

/-- The command. -/
def gateCommand : Json := .object [("command", .string "knock")]

/-- The reply that goes on. -/
def gateEnter : Json := .object [("text", .string "Enter"), ("jump", .string "Hall")]

/-- The reply that does not. -/
def gateLeave : Json := .object [("text", .string "Leave")]

/-- The offer. -/
def gateChoice : Json := .object [("options", .array [gateEnter, gateLeave])]

/-- The table of the script. -/
def gateTable : NodeTable :=
  ⟨[⟨"Gate", [.command "knock", .choice [⟨"Enter", [.jump "Hall"], none⟩, ⟨"Leave", [], none⟩]],
    []⟩], List.pairwise_singleton _ _⟩

set_option maxRecDepth 20000 in
theorem read_gateText : Json.read gateText.toList = .ok
    (.array [.object [("title", .string "Gate"), ("body", .array [gateCommand, gateChoice])]]) := by
  cbv

theorem load_gateText : Script.load gateText = .ok gateTable := by
  have knocks (place : Place) : Body.statement place gateCommand = .ok (.command "knock") := by
    have form : gateCommand.statementForm = .command "knock" := rfl
    rw [Body.statement_iff, form]
    exact .command _
  have offers (place : Place) : Body.statement place gateChoice =
      .ok (.choice [⟨"Enter", [.jump "Hall"], none⟩, ⟨"Leave", [], none⟩]) := by
    have form : gateChoice.statementForm = .choice [gateEnter, gateLeave] := rfl
    have enters : gateEnter.replyForm? = some ⟨"Enter", none, some (some "Hall"), none⟩ := rfl
    have leaves : gateLeave.replyForm? = some ⟨"Leave", none, none, none⟩ := rfl
    rw [Body.statement_iff, form]
    refine .choice (Body.replies_cons.2
      ⟨_, _, _, _, _, enters, .absent, .written "Hall", .absent, ?_, rfl⟩)
    exact Body.replies_cons.2
      ⟨_, _, _, _, _, leaves, .absent, .absent, .absent, Body.replies_nil _, rfl⟩
  have drafts : Draft.ofScript
      (.array [.object [("title", .string "Gate"), ("body", .array [gateCommand, gateChoice])]]) =
      .ok [⟨"Gate", [], [gateCommand, gateChoice]⟩] := rfl
  rw [Script.load_of_read read_gateText, Script.ofDocument, drafts]
  refine Except.bind_eq_ok_iff.2 ⟨_, Except.bind_eq_ok_iff.2 ⟨_, ?_, rfl⟩, rfl⟩
  refine Body.statements_cons.2 ⟨_, _, knocks _, ?_, rfl⟩
  exact Body.statements_cons.2 ⟨_, _, offers _, Body.statements_nil _, rfl⟩

/-- A play of the script, with a variable that the command line binds. -/
def gateSurroundings : Surroundings where
  words := ["play", "gate.json", "--start", "Gate", "--var", "gold=3"]
  environment := []
  files path :=
    if path = Surroundings.settingsFile then .error .missing
    else .ok gateText.toUTF8.data.toList

theorem loadFile_gate :
    Script.loadFile gateSurroundings.files (Path.ofString "gate.json") = .ok gateTable := by
  have held : gateSurroundings.files (Path.ofString "gate.json") =
      .ok gateText.toUTF8.data.toList := rfl
  have unjoined : Text.joinLineEnds gateText.toList = gateText.toList := by cbv
  rw [Script.loadFile, held]
  dsimp only
  rw [Script.ofBytes_of_decode (Text.decode_toUTF8 gateText), unjoined]
  exact load_gateText

theorem spelled_gate : ∀ node ∈ gateTable.entries, node.Spelled := by
  intro node member
  obtain rfl := List.mem_singleton.1 member
  exact ⟨by decide, by decide⟩

theorem play_faithful_gate : ∃ levels given count loaded,
    ofWords gateSurroundings.words = .play "gate.json" (some "Gate") ["gold=3"] ∧
    gateSurroundings.levels = .ok levels ∧ gateSurroundings.settingsText = .ok [] ∧
    gateSurroundings.settings [] (some "Gate") = .ok ⟨"Gate", true, false⟩ ∧
    Binding.ofList ["gold=3"] = .ok given ∧
    Dialogue.loadFile gateSurroundings.files (Path.ofString "gate.json") false
      (Dialogue.new (Binding.toStore given) () true true) = .ok count loaded ∧
    (∀ node ∈ loaded.nodes.entries, node.Spelled) ∧
    ∃ run started, Dialogue.run "Gate" loaded = .ok run started ∧
      ∀ budget input, Faithful true
        (fun fuel => (carryOut gateSurroundings).conclude budget fuel input)
        fun pulls => run.played budget pulls started (typedLines input) := by
  have asked : ofWords gateSurroundings.words = .play "gate.json" (some "Gate") ["gold=3"] := rfl
  obtain ⟨levels, filtered⟩ : ∃ levels, gateSurroundings.levels = .ok levels := ⟨_, rfl⟩
  have read : gateSurroundings.settingsText = .ok [] := rfl
  have set : gateSurroundings.settings [] (some "Gate") = .ok ⟨"Gate", true, false⟩ := by cbv
  obtain ⟨given, bound⟩ : ∃ given, Binding.ofList ["gold=3"] = .ok given :=
    ⟨Roster.ofList [("gold", .int 3)], by cbv⟩
  obtain ⟨world, done⟩ : ∃ world,
      Dialogue.loadFile gateSurroundings.files (Path.ofString "gate.json") false
        (Dialogue.new (Binding.toStore given) () true true) =
      .ok 1 { Dialogue.new (Binding.toStore given) () true true with
        nodes := gateTable, world } := by
    rw [Dialogue.loadFile, loadFile_gate]
    exact ⟨_, rfl⟩
  exact ⟨levels, given, 1, _, asked, filtered, read, set, bound, done, spelled_gate,
    play_faithful asked filtered read set bound done spelled_gate⟩

end Command

end Parley
