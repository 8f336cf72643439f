import Remap.Proofs.Log.Delivery
import Remap.Proofs.Path
import Remap.Source

/-!
# Source files read under a name

What comes of reading a file, said without the steps that read it (`SourceFile.Reads`): its text
with all line ends unified, or why it has none. A listing that is loaded is the one that can be
built of that text without the file, and fails as that one does. Whatever comes of it, and whatever
was bound before, each event on the way names the file and no file is bound in the end
(`SourceFile.load_of_reads`).
-/

namespace Remap

/-! ## Line ends -/

namespace Text

/-- Whether one text is another with a line feed for each line end. A carriage return that has a
line feed behind it is one line end with it. -/
inductive Unifies : List Char → List Char → Prop
  | nil : Unifies [] []
  | pair {rest unified : List Char} : Unifies rest unified →
      Unifies ('\r' :: '\n' :: rest) ('\n' :: unified)
  | lone {rest unified : List Char} : rest.head? ≠ some '\n' → Unifies rest unified →
      Unifies ('\r' :: rest) ('\n' :: unified)
  | other {c : Char} {rest unified : List Char} : c ≠ '\r' → Unifies rest unified →
      Unifies (c :: rest) (c :: unified)

theorem unifies_unifyLineEnds (text : List Char) : Unifies text (unifyLineEnds text) := by
  fun_induction unifyLineEnds text with
  | case1 rest ih => exact .pair ih
  | case2 rest hpair ih =>
      refine .lone ?_ ih
      intro hhead
      obtain ⟨tail, rfl⟩ := List.head?_eq_some_iff.mp hhead
      exact hpair tail rfl
  | case3 c rest _ hreturn ih => exact .other (fun hc => hreturn hc) ih
  | case4 => exact .nil

theorem Unifies.unifyLineEnds_eq {text unified : List Char} (h : Unifies text unified) :
    unifyLineEnds text = unified := by
  induction h with
  | nil => rfl
  | pair _ ih => rw [unifyLineEnds, ih]
  | @lone rest unified hhead _ ih =>
      have hpair : ∀ tail, rest ≠ '\n' :: tail := by
        rintro tail rfl
        exact hhead rfl
      rw [unifyLineEnds, ih]
      exact hpair
  | other hc _ ih =>
      rw [unifyLineEnds, ih]
      · exact fun _ hreturn _ => hc hreturn
      · exact hc

/-- Where line ends are unified no carriage return is left. -/
theorem Unifies.return_not_mem {text unified : List Char} (h : Unifies text unified) :
    '\r' ∉ unified := by
  induction h with
  | nil => exact List.not_mem_nil
  | pair _ ih => simpa using ih
  | lone _ _ ih => simpa using ih
  | other hc _ ih => simpa [eq_comm, hc] using ih

end Text

/-! ## Events of the work -/

namespace Event

/-- The record of an event that names a file. -/
def naming (event : Event) (file : String) : Record :=
  ⟨some (.str event.name), .debug, event.fields ++ [(Record.fileField, .str file)]⟩

theorem lookup_fileField (event : Event) : event.fields.lookup Record.fileField = none := by
  cases event <;> rfl

/-- No event brings a file of its own, so that a file that is bound is named. -/
theorem withFile_record {file : String} (h : file ≠ "") (event : Event) :
    event.record.withFile (some file) = event.naming file :=
  (Record.names_iff.mp (.file rfl h event.lookup_fileField)).symm

end Event

namespace Session

theorem report_eq (session : Session) (events : List Event) :
    session.report events =
      { session with
        deliveries := session.deliveries ++ events.flatMap fun event =>
          copies session.settings (event.record.withFile session.bound) } := by
  induction events generalizing session with
  | nil => simp [report]
  | cons event events ih =>
      rw [report, List.foldl_cons, ← report, ih, emit, deliver_eq_copies, List.flatMap_cons,
        List.append_assoc]

end Session

/-! ## Files -/

namespace SourceFile

variable {file : SourceFile}

/-- What comes of reading a file. -/
inductive Reads (file : SourceFile) : Except SourceError (List Char) → Prop
  | nullCharacter : file.path.hasNull → Reads file (.error .nullCharacter)
  | missing : ¬ file.path.hasNull → file.content = .nothing → Reads file (.error .missing)
  | directory : ¬ file.path.hasNull → file.content = .directory → Reads file (.error .directory)
  | encoding {bytes : ByteArray} : ¬ file.path.hasNull → file.content = .file bytes →
      ¬ bytes.IsValidUTF8 → Reads file (.error .encoding)
  | text {written : String} {text : List Char} : ¬ file.path.hasNull →
      file.content = .file written.toUTF8 → Text.Unifies written.toList text →
      Reads file (.ok text)

theorem reads_text (file : SourceFile) : file.Reads file.text := by
  unfold text
  by_cases hnull : file.path.hasNull
  · rw [if_pos hnull]
    exact .nullCharacter hnull
  rw [if_neg hnull]
  cases hcontent : file.content with
  | nothing => exact .missing hnull hcontent
  | directory => exact .directory hnull hcontent
  | file bytes =>
      dsimp only
      by_cases hvalid : bytes.IsValidUTF8
      · let written : String := ⟨bytes, hvalid⟩
        have hdecode : Text.decode? bytes = some written.toList := Text.decode?_toUTF8 written
        rw [hdecode]
        have hwritten : file.content = .file written.toUTF8 := hcontent
        exact .text hnull hwritten (Text.unifies_unifyLineEnds _)
      · rw [Text.decode?_of_not_isValidUTF8 hvalid]
        exact .encoding hnull hcontent hvalid

theorem Reads.text_eq {read : Except SourceError (List Char)} (h : file.Reads read) :
    file.text = read := by
  unfold SourceFile.text
  cases h with
  | nullCharacter hnull =>
      rw [if_pos hnull]
      rfl
  | missing hnull hcontent =>
      rw [if_neg hnull, hcontent]
      rfl
  | directory hnull hcontent =>
      rw [if_neg hnull, hcontent]
      rfl
  | encoding hnull hcontent hvalid =>
      rw [if_neg hnull, hcontent]
      dsimp only
      rw [Text.decode?_of_not_isValidUTF8 hvalid]
      rfl
  | text hnull hcontent hunified =>
      rw [if_neg hnull, hcontent]
      dsimp only
      rw [Text.decode?_toUTF8, ← hunified.unifyLineEnds_eq]
      rfl

theorem load_eq (hname : file.path.display ≠ "") (parse : Parse) (settings : Settings)
    (wrapperLength : Int) (session : Session) :
    file.load parse settings wrapperLength session =
      let built := file.build parse settings wrapperLength
      (built.value, { session with
        bound := none
        deliveries := session.deliveries ++ built.events.flatMap fun event =>
          Session.copies session.settings (event.naming file.path.display) }) := by
  simp only [load, Session.report_eq, Session.bind, Session.clear, Event.withFile_record hname]

/-- A listing that is loaded is the one built of the text of the file, with the grammar that the
settings have for its name, and fails as that one does or as the reading of the file. Each event
names the file, whatever was bound before, and in the end no file is bound. -/
theorem load_of_reads (hpath : file.path.IsNormal) (parse : Parse) (settings : Settings)
    (wrapperLength : Int) (session : Session) :
    let (result, after) := file.load parse settings wrapperLength session
    after.bound = none ∧ after.settings = session.settings ∧
    ∃ read, file.Reads read ∧ (∀ other, file.Reads other → other = read) ∧
      match read with
      | .error error => result = .error error ∧ after.deliveries = session.deliveries
      | .ok text =>
        let built := Listing.build parse text wrapperLength (settings.parser.grammarFor file.path)
        result = built.value.mapError .listing ∧
        after.deliveries = session.deliveries ++ built.events.flatMap fun event =>
          Session.copies session.settings (event.naming file.path.display) := by
  rw [load_eq hpath.display_ne_empty]
  refine ⟨rfl, rfl, file.text, file.reads_text, fun other hother => hother.text_eq.symm, ?_⟩
  rw [build]
  cases file.text with
  | error error => exact ⟨rfl, List.append_nil _⟩
  | ok text => exact ⟨rfl, rfl⟩

/-- A file whose lines end in two ways, with a directive that nothing follows. -/
def oldEnds : SourceFile where
  path := .ofText "./lib//b.js"
  content := .file "a\r\n// t8 ignore rest\r".toUTF8

/-- A tree of a statement and the comment behind it. -/
def oldEndsTree : SyntaxTree where
  root := ⟨"program", 0, 19, true, false, 0, 0,
    [⟨"expression_statement", 0, 1, true, false, 0, 0, []⟩,
      ⟨"comment", 2, 19, true, false, 1, 0, []⟩]⟩
  hasError := false

theorem load_of_reads_oldEnds :
    let session : Session :=
      { settings := { level := .debug, outputs := [{}] }, bound := some "a.js" }
    let (result, after) := oldEnds.load (fun _ _ => oldEndsTree) {} 0 session
    oldEnds.path.IsNormal ∧
    result.toOption.map (fun listing => listing.lines.toList.map Line.stop) = some [2, 19] ∧
    after.bound = none ∧
    (after.received 0).map Record.fields =
      [[("keyword", .str "rest"), ("offset", .int 2), ("source_file", .str "lib/b.js")],
        [("lines", .int 2), ("ignored_lines", .int 0), ("ignore_segments", .int 0),
          ("parser", .str "javascript"), ("source_file", .str "lib/b.js")]] := by
  intro session
  have hpath : oldEnds.path.IsNormal := Path.isNormal_ofText _
  obtain ⟨hbound, -, read, -, honly, houtcome⟩ :=
    load_of_reads hpath (fun _ _ => oldEndsTree) {} 0 session
  have hread : oldEnds.Reads (.ok "a\n// t8 ignore rest\n".toList) :=
    .text (mt Path.hasNull_iff.mp (by decide)) rfl (Text.unifies_unifyLineEnds _)
  cases honly _ hread
  obtain ⟨hresult, hdeliveries⟩ := houtcome
  refine ⟨hpath, ?_, hbound, ?_⟩
  · rw [hresult]
    rfl
  · rw [Session.received, hdeliveries]
    rfl

end SourceFile

end Remap
