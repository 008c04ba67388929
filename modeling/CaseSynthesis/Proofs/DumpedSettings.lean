import CaseSynthesis.Command.Run
import CaseSynthesis.Proofs.FlatTables
import CaseSynthesis.Proofs.ValidSettings

/-! Settings that are shown as a document and loaded again. Names and paths that were found valid have
nothing in them that a document would have to escape, so that each setting is read back from its line
and no default takes its place. -/

namespace CaseSynthesis

namespace Settings

private theorem isPlain_of_solid (c : Char) (solid : Text.isSolid c = true) : Toml.isPlain c = true := by
  have place := Text.toNat_of_solid c solid
  simp only [Text.solidRanges,Text.inRanges_cons_iff,Text.inRanges_nil_iff,or_false] at place
  exact (Toml.isPlain_iff c).mpr
    ⟨by omega,by omega,Text.ne_of_solid c _ solid rfl,Text.ne_of_solid c _ solid rfl⟩

private theorem isPlain_of_digit (c : Char) (digit : c.isDigit = true) : Toml.isPlain c = true := by
  simp only [Char.isDigit,ge_iff_le,Bool.and_eq_true,decide_eq_true_eq,
    UInt32.le_iff_toNat_le] at digit
  change 48 ≤ c.toNat ∧ c.toNat ≤ 57 at digit
  have apart (sign : Char) (outside : ¬ (48 ≤ sign.toNat ∧ sign.toNat ≤ 57)) : c ≠ sign := by
    rintro rfl
    exact outside digit
  exact (Toml.isPlain_iff c).mpr
    ⟨by omega,by omega,apart _ (by decide),apart _ (by decide)⟩

private theorem isPlain_of_nameChar (c : Char) (named : isNameChar c = true) : Toml.isPlain c = true := by
  have parts : (Text.isAlphabetic c = true ∨ Text.isNumeric c = true) ∨ c = '_' := by
    simpa [isNameChar,Text.isAlphanumeric] using named
  rcases parts with (letter | numeral) | rfl
  · exact isPlain_of_solid c (Text.isSolid_of_alphabetic c letter)
  · by_cases ascii : c.toNat < 0x80
    · rw [Text.isNumeric,if_pos ascii] at numeral
      exact isPlain_of_digit c numeral
    · exact isPlain_of_solid c (Text.isSolid_of_numeric c ascii numeral)
  · rfl

private theorem plain_of_name (name : List Char) (named : isName name = true) :
    ∀ c ∈ name, Toml.isPlain c = true := by
  intro c member
  apply isPlain_of_nameChar
  cases name with
  | nil => cases named
  | cons first rest =>
    simp only [isName,Bool.and_eq_true,List.all_eq_true] at named
    rcases List.mem_cons.mp member with rfl | later
    · exact isNameChar_of_start c named.1.1
    · exact named.2 c later

private theorem plain_of_segments (names : List String)
    (named : ∀ name ∈ names, isName name.toList = true) :
    ∀ c ∈ Lexer.segmentText names, Toml.isPlain c = true := by
  intro c member
  obtain ⟨name,listed,inside⟩ := List.mem_flatMap.mp member
  simp only [List.mem_cons] at inside
  rcases inside with rfl | rfl | inside
  · rfl
  · rfl
  · exact plain_of_name name.toList (named name listed) c inside

/-- A path has colons in it besides its names, and those stand for themselves too. -/
private theorem plain_of_path (path : String)
    (named : (splitColons [] (withoutColons path.toList)).all isName = true) :
    ∀ c ∈ path.toList, Toml.isPlain c = true := by
  obtain ⟨global,first,rest,names,spelled⟩ := spelled_pathNames path
  have each : ∀ name ∈ first :: rest, isName name.toList = true := by
    rw [← names]
    simpa [pathNames] using named
  rw [spelled,Lexer.pathText]
  cases global with
  | true => exact plain_of_segments _ each
  | false =>
    intro c member
    rcases List.mem_append.mp member with head | tail
    · exact plain_of_name _ (each first (by simp)) c head
    · exact plain_of_segments rest
        (fun name listed => each name (List.mem_cons_of_mem _ listed)) c tail

def fields (settings : Settings) (valid : settings.validate = .ok ()) : List Toml.Field :=
  have accepted := (validate_eq_ok_iff settings).mp valid
  [⟨"fallback_case",settings.fallbackCase,rfl,plain_of_name _ accepted.1⟩,
    ⟨"serde_path",settings.serdePath,rfl,plain_of_path _ accepted.2.2⟩]

private theorem toList_document (settings : Settings) :
    (settings.document ++ "\n").toList =
      "[codegen]\nfallback_case = \"".toList ++ settings.fallbackCase.toList ++
        "\"\nserde_path = \"".toList ++ settings.serdePath.toList ++ "\"\n".toList ++
        "\n".toList := by
  unfold document
  simp only [String.toList_append]

private theorem document_eq_table (settings : Settings) (valid : settings.validate = .ok ()) :
    settings.document ++ "\n" = String.ofList
      (Toml.tableText "codegen" (settings.fields valid) ++ List.replicate 1 '\n') := by
  have opening : "[codegen]\nfallback_case = \"".toList =
      '[' :: ("codegen".toList ++ "]\n".toList ++ ("fallback_case".toList ++ " = \"".toList)) := rfl
  have between : "\"\nserde_path = \"".toList =
      "\"\n".toList ++ ("serde_path".toList ++ " = \"".toList) := rfl
  have ending : "\n".toList = List.replicate 1 '\n' := rfl
  apply String.toList_injective
  rw [String.toList_ofList,toList_document]
  generalize "[codegen]\nfallback_case = \"".toList = head at opening ⊢
  generalize "\"\nserde_path = \"".toList = middle at between ⊢
  subst opening between
  simp only [Toml.tableText,fields,Toml.Field.written,List.flatMap_cons,List.flatMap_nil,
    List.append_nil,List.cons_append,List.append_assoc]
  rw [ending]

private theorem parse?_document (settings : Settings) (valid : settings.validate = .ok ()) :
    Toml.parse? (settings.document ++ "\n") =
      some [("codegen",.table .header [("fallback_case",.string settings.fallbackCase),
        ("serde_path",.string settings.serdePath)])] := by
  have distinct : ((settings.fields valid).map Toml.Field.key).Nodup := by
    simp [fields]
  rw [document_eq_table settings valid,Toml.parse?_table _ _ 1 rfl distinct]
  rfl

private theorem ofDocument_document (settings : Settings) (valid : settings.validate = .ok ()) :
    ofDocument (settings.document ++ "\n") = .ok settings := by
  unfold ofDocument
  rw [parse?_document settings valid]
  change (settings.validate >>= fun _ => .ok settings) = _
  rw [valid]
  rfl

end Settings

namespace Command

/-- A command line that asks for the document shows that of the settings which are loaded. -/
private theorem runArguments_dump (environment : String → Option String) (files : Files)
    (arguments : List String) (path : Option String) (settings : Settings)
    (asked : ofArguments environment arguments = .ok (.config path true))
    (loaded : Settings.ofPath? files path = .ok settings) :
    runArguments environment files arguments =
      { exitCode := 0, output := settings.document ++ "\n" } := by
  have printed : (Command.config path true).print files = .ok (settings.document ++ "\n") := by
    rw [print,loaded]
    rfl
  rw [runArguments,asked]
  change run files (.config path true) = _
  rw [run,printed]

end Command

/-- Valid settings have no character in them that would have to be escaped. Whichever command line asks
for their document, and wherever they were loaded from, what is printed is accepted again and gives the
same settings, as a text and as the settings file of a later run. -/
theorem dumped_settings_reload (settings : Settings) (valid : settings.validate = .ok ()) :
    (∀ c ∈ settings.fallbackCase.toList ++ settings.serdePath.toList, Toml.isPlain c = true) ∧
    (∀ environment files arguments path,
      Command.ofArguments environment arguments = .ok (.config path true) →
      Settings.ofPath? files path = .ok settings →
      Command.runArguments environment files arguments =
        { exitCode := 0, output := settings.document ++ "\n" }) ∧
    Settings.ofDocument (settings.document ++ "\n") = .ok settings ∧
    ∀ files path, files path = .ok (settings.document ++ "\n") →
      Settings.ofPath? files (some path) = .ok settings := by
  have reloaded := Settings.ofDocument_document settings valid
  refine ⟨?_,?_,reloaded,?_⟩
  · obtain ⟨named,_,path⟩ := (validate_eq_ok_iff settings).mp valid
    intro c member
    rcases List.mem_append.mp member with fallback | serde
    · exact Settings.plain_of_name _ named c fallback
    · exact Settings.plain_of_path _ path c serde
  · intro environment files arguments path asked loaded
    exact Command.runArguments_dump environment files arguments path settings asked loaded
  · intro files path held
    rw [Settings.ofPath?,Settings.ofFile,held]
    exact reloaded

def foreign : Settings where
  fallbackCase := "Été²"
  serdePath := "::série::_wire"

set_option maxRecDepth 4000 in
private theorem foreign_valid : foreign.validate = .ok () := rfl

theorem dumped_settings_reload_foreign :
    foreign.validate = .ok () ∧
    Settings.ofDocument "[codegen]\nfallback_case = \"Été²\"\nserde_path = \"::série::_wire\"\n\n" =
      .ok foreign ∧
    Command.runArguments (fun _ => none) (fun _ => .ok (foreign.document ++ "\n"))
        ["config","--config","dumped.toml","--dump"] =
      { exitCode := 0, output := foreign.document ++ "\n" } := by
  obtain ⟨_,printed,reloaded,kept⟩ := dumped_settings_reload foreign foreign_valid
  exact ⟨foreign_valid,reloaded,printed _ _ _ (some "dumped.toml") rfl (kept _ _ rfl)⟩

end CaseSynthesis
