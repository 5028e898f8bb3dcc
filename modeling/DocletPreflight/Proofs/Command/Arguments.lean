import DocletPreflight.Command.Arguments

/-!
# Options in front

What the options of a page give is noted over what is there already, so what was there before the first
argument shows through wherever they give nothing (`Given.followedBy`, `ofReadings_followedBy`). An
option in front of arguments is therefore seen in the request alone, and not in whether there is one: `-v`
makes it verbose (`parse_verbose_cons`), and a log file counts where the arguments name none
(`parse_logFile_cons`).
-/

set_option autoImplicit false

namespace DocletPreflight

namespace Given

/-- What is given later, over what was given before. -/
def followedBy (before later : Given) : Given where
  verbose := before.verbose || later.verbose
  logFile := later.logFile.or before.logFile
  model := later.model.or before.model

/-- Nothing given later leaves what was given before. -/
theorem followedBy_nothing (before : Given) : before.followedBy .nothing = before := by
  simp [followedBy, nothing]

/-- A value that is set later is set in what is given later. -/
theorem setValue_followedBy (o : ToolOption) (value : String) (before later : Given) :
    (before.followedBy later).setValue o value = before.followedBy (later.setValue o value) := by
  cases o <;> rfl

/-- Options without a value are taken in the same way whatever was given before. -/
theorem takeAll_followedBy (page : Page) (os : List ToolOption) (before later : Given) :
    takeAll page os (before.followedBy later) = (takeAll page os later).map before.followedBy := by
  induction os generalizing later with
  | nil => rfl
  | cons o os ih =>
    rw [takeAll, takeAll]
    split
    · rfl
    · split
      · have hverbose : { before.followedBy later with verbose := true } =
            before.followedBy { later with verbose := true } := by simp [followedBy]
        rw [hverbose, ih]
      · exact ih later

end Given

namespace Collected

/-- What was collected, behind what was given before. -/
def following (before : Given) (c : Collected) : Collected :=
  { c with given := before.followedBy c.given }

/-- What is given before the arguments of a page is there behind them, and changes nothing else. -/
theorem ofReadings_followedBy (page : Page) (before later : Given) (extras : List String)
    (readings : List (String × Reading)) :
    ofReadings page (before.followedBy later) extras readings =
      (ofReadings page later extras readings).map (following before) := by
  fun_induction ofReadings page later extras readings with
  | case1 later extras => rfl
  | case2 later extras argument rest htop =>
    rw [ofReadings, if_pos htop]
    rfl
  | case3 later extras argument rest htop ih => rw [ofReadings, if_neg htop, ih]
  | case4 later extras argument rest ih => rw [ofReadings, ih]
  | case5 later extras argument o htakes value rest ih =>
    rw [ofReadings, if_pos htakes]
    simp only [Given.setValue_followedBy, ih]
  | case6 later extras argument o htakes value rest ih =>
    rw [ofReadings, if_pos htakes]
    simp only [Given.setValue_followedBy, ih]
  | case7 later extras argument o rest htakes hnone =>
    rw [ofReadings, if_pos htakes]
    · rfl
    · exact hnone
  | case8 later extras argument o rest htakes value =>
    rw [ofReadings, if_neg htakes]
    rfl
  | case9 later extras argument o rest htakes given htaken ih =>
    rw [ofReadings.eq_def]
    simp only [if_neg htakes, Given.takeAll_followedBy, htaken, Except.map, ih]
  | case10 later extras argument o rest htakes refusal htaken =>
    rw [ofReadings.eq_def]
    simp only [if_neg htakes, Given.takeAll_followedBy, htaken, Except.map]
  | case11 later extras argument o attached rest found e hfound =>
    rw [ofReadings.eq_def]
    simp only [found] at hfound
    simp only [hfound, Except.map]
  | case12 later extras argument o attached rest found os hfound given htaken ih =>
    rw [ofReadings.eq_def]
    simp only [found] at hfound
    simp only [hfound, Given.takeAll_followedBy, htaken, Except.map, ih]
  | case13 later extras argument o attached rest found os hfound refusal htaken =>
    rw [ofReadings.eq_def]
    simp only [found] at hfound
    simp only [hfound, Given.takeAll_followedBy, htaken, Except.map]

/-- A command line is read from its first argument on once that one can be read. -/
theorem ofArguments_cons (page : Page) {argument : String} {reading : Reading}
    (hreading : Reading.ofArgument page.options argument = .ok reading) (arguments : List String) :
    ofArguments page (argument :: arguments) =
      match arguments.mapM (Reading.ofArgument page.options) with
      | .error e => .error (.wrong page e)
      | .ok readings => ofReadings page .nothing [] ((argument, reading) :: arguments.zip readings) := by
  rw [ofArguments, List.mapM_cons, hreading]
  cases arguments.mapM (Reading.ofArgument page.options) with
  | error e => rfl
  | ok readings => rfl

/-- A word that does not start with a dash is plain on every page. -/
theorem ofArgument_plain (options : List ToolOption) {argument : String}
    (h : argument.toList.head? ≠ some '-') : Reading.ofArgument options argument = .ok .plain := by
  unfold Reading.ofArgument
  split
  next rest heq => exact absurd (by rw [heq]; rfl) h
  next c rest heq => exact absurd (by rw [heq]; rfl) h
  next => rfl

/-- An option of a page is read from its full name. -/
theorem ofArgument_longName (page : Page) {o : ToolOption} (ho : o ∈ page.options) :
    Reading.ofArgument page.options o.longName = .ok (.long o none) := by
  cases o with
  | help => cases page <;> rfl
  | verbose => cases page <;> rfl
  | logFile => cases page <;> rfl
  | model =>
    cases page with
    | top => exact absurd ho (by decide)
    | check => exact absurd ho (by decide)
    | filter => rfl

/-- The two ways of asking for a verbose log are read alike. -/
theorem ofReadings_verbose_cons (page : Page) {argument : String} {reading : Reading}
    (h : reading = .short .verbose none ∨ reading = .long .verbose none)
    (readings : List (String × Reading)) :
    ofReadings page .nothing [] ((argument, reading) :: readings) =
      ofReadings page ⟨true, none, none⟩ [] readings := by
  rcases h with rfl | rfl
  · rfl
  · rw [ofReadings.eq_def]
    rfl

/-- An option for a verbose log in front adds just that to what the other arguments give. -/
theorem ofArguments_verbose_cons (page : Page) {argument : String}
    (h : argument = "-v" ∨ argument = "--verbose") (arguments : List String) :
    ofArguments page (argument :: arguments) =
      (ofArguments page arguments).map (following ⟨true, none, none⟩) := by
  obtain ⟨reading, hreading, hverbose⟩ : ∃ reading,
      Reading.ofArgument page.options argument = .ok reading ∧
        (reading = .short .verbose none ∨ reading = .long .verbose none) := by
    have hoption : ToolOption.verbose ∈ page.options := by cases page <;> decide
    rcases h with rfl | rfl
    · exact ⟨_, by cases page <;> rfl, .inl rfl⟩
    · exact ⟨_, ofArgument_longName page hoption, .inr rfl⟩
  rw [ofArguments_cons page hreading, ofArguments]
  cases arguments.mapM (Reading.ofArgument page.options) with
  | error e => rfl
  | ok readings =>
    show ofReadings page .nothing [] ((argument, reading) :: arguments.zip readings) =
      (ofReadings page .nothing [] (arguments.zip readings)).map _
    rw [ofReadings_verbose_cons page hverbose]
    exact ofReadings_followedBy page ⟨true, none, none⟩ .nothing [] (arguments.zip readings)

/-- An option with its value in front of the arguments of a page is given before what they give. -/
theorem ofArguments_value_cons (page : Page) {o : ToolOption} (ho : o ∈ page.options)
    (htakes : o.takesValue = true) {value : String} (hvalue : value.toList.head? ≠ some '-')
    (arguments : List String) :
    ofArguments page (o.longName :: value :: arguments) =
      (ofArguments page arguments).map (following (Given.nothing.setValue o value)) := by
  rw [ofArguments_cons page (ofArgument_longName page ho), List.mapM_cons, ofArgument_plain _ hvalue,
    ofArguments]
  cases arguments.mapM (Reading.ofArgument page.options) with
  | error e => rfl
  | ok readings =>
    have hstep : ofReadings page .nothing []
        ((o.longName, .long o none) :: (value, .plain) :: arguments.zip readings) =
        ofReadings page (Given.nothing.setValue o value) [] (arguments.zip readings) := by
      rw [ofReadings, if_pos htakes]
    have hset := Given.followedBy_nothing (Given.nothing.setValue o value)
    have hfollow := ofReadings_followedBy page (Given.nothing.setValue o value) .nothing []
      (arguments.zip readings)
    rw [hset, ← hstep] at hfollow
    exact hfollow

end Collected

/-- An argument in front of all others is for the tool, unless it is the mark. -/
theorem splitDocletArguments_cons {argument : String} (h : argument ≠ docletMark)
    (arguments : List String) :
    splitDocletArguments (argument :: arguments) =
      (argument :: (splitDocletArguments arguments).1, (splitDocletArguments arguments).2) := by
  simp [splitDocletArguments, h]

/-- Splitting a command line at its mark makes up no arguments. -/
theorem splitDocletArguments_subset (arguments : List String) :
    (splitDocletArguments arguments).1 ⊆ arguments ∧ (splitDocletArguments arguments).2 ⊆ arguments :=
  ⟨(List.takeWhile_prefix _).subset,
    ((List.drop_suffix 1 _).trans (List.dropWhile_suffix _)).subset⟩

namespace Request

/-- A request behind what was given in front of its arguments. -/
def following (before : Given) (request : Request) : Request where
  verbose := before.verbose || request.verbose
  logFile := request.logFile.or before.logFile
  command := request.command

/-- What was given before the top page stays in front when both pages are combined. -/
theorem combine_followedBy (before first second : Given) (command : Command) :
    combine (before.followedBy first) second command = (combine first second command).following before := by
  simp [combine, following, Given.followedBy, Bool.or_assoc, Option.or_assoc]

/-- Command lines whose top pages differ by what was given before differ as requests by just that. -/
theorem parse_following {before : Given} {arguments arguments' : List String}
    (h : Collected.ofArguments .top arguments' =
      (Collected.ofArguments .top arguments).map (Collected.following before)) :
    parse arguments' = (parse arguments).map (following before) := by
  unfold parse
  rw [h]
  cases Collected.ofArguments .top arguments with
  | error refusal => rfl
  | ok first =>
    simp only [Except.map, Bind.bind, Except.bind, Collected.following]
    cases first.command with
    | none => rfl
    | some called =>
      obtain ⟨name, rest⟩ := called
      simp only
      cases pageOf? name with
      | none => rfl
      | some page =>
        simp only
        cases Collected.ofArguments page rest with
        | error refusal => rfl
        | ok second =>
          simp only
          cases commandOf page second.given with
          | error refusal => rfl
          | ok command =>
            simp only [combine_followedBy]
            split <;> rfl

/-- With a log file in front, arguments that name none ask for the same, with this file. -/
theorem parse_logFile_cons {value : String} (hvalue : value.toList.head? ≠ some '-')
    {arguments : List String} {request : Request} (h : parse arguments = .ok request)
    (hnone : request.logFile = none) :
    parse ("--log-file" :: value :: arguments) =
      .ok { request with logFile := some (.path (.parse value)) } := by
  have hmark : value ≠ docletMark := by
    rintro rfl
    exact hvalue rfl
  have hfollowing : Collected.ofArguments .top ("--log-file" :: value :: arguments) =
      (Collected.ofArguments .top arguments).map
        (Collected.following (Given.nothing.setValue .logFile value)) :=
    Collected.ofArguments_value_cons .top (by decide : ToolOption.logFile ∈ Page.top.options) rfl
      hvalue arguments
  rw [parse_following hfollowing, h]
  simp [following, hnone, Except.map, Given.setValue, Given.nothing, GivenPath.ofValue, hmark]

end Request

end DocletPreflight
