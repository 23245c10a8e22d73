import SpwRmap.App.Values

/-!
# The options of the command line program

`parseOptions` of `spwrmap` walks over its arguments and then checks that nothing is missing.
`Group` is the grammar of one option with its values, and `Setting` what the option stands for.
The program goes on exactly with the command lines of that grammar that make a complete set of
options.
-/

namespace SpwRmap.App

open Arguments Outcome

structure Options where
  ip : Text := ['1', '2', '7', '.', '0', '.', '0', '.', '1']
  port : Text := ['1', '0', '0', '3', '0']
  type : Text := []
  target_address : List UInt8 := []
  reply_address : List UInt8 := []
  address : Option UInt32 := none
  length : Option UInt64 := none
  data : List UInt8 := []
deriving DecidableEq

inductive OptionName
  | ip | port | type | target_address | reply_address | address | length | data
deriving DecidableEq

namespace OptionName

def text : OptionName → Text
  | ip => ['i', 'p']
  | port => ['p', 'o', 'r', 't']
  | type => ['t', 'y', 'p', 'e']
  | target_address => ['t', 'a', 'r', 'g', 'e', 't', '-', 'a', 'd', 'd', 'r', 'e', 's', 's']
  | reply_address => ['r', 'e', 'p', 'l', 'y', '-', 'a', 'd', 'd', 'r', 'e', 's', 's']
  | address => ['a', 'd', 'd', 'r', 'e', 's', 's']
  | length => ['l', 'e', 'n', 'g', 't', 'h']
  | data => ['d', 'a', 't', 'a']

/-- The comparisons of `parseOptions`, in order. -/
def ofText (name : Text) : Option OptionName :=
  [ip, port, type, target_address, reply_address, address, length, data].find? (·.text = name)

theorem ofText_eq_some_iff {name : Text} {option : OptionName} :
    ofText name = some option ↔ name = option.text := by
  constructor
  · intro h
    have hfound := List.find?_some h
    exact (of_decide_eq_true hfound).symm
  · rintro rfl
    cases option <;> decide

end OptionName

def readText : Text := ['r', 'e', 'a', 'd']

def writeText : Text := ['w', 'r', 'i', 't', 'e']

def helpText : Text := ['-', '-', 'h', 'e', 'l', 'p']

def noByteValue : String := " requires at least one byte value.\n"

/-- One option of `parseOptions`, and how many arguments behind it belong to it. -/
def readOption (name : Text) (rest : List Text) (opts : Options) :
    Except String (Options × Nat) :=
  match OptionName.ofText name with
  | some .ip => withValue name rest fun value => .ok { opts with ip := value }
  | some .port => withValue name rest fun value => .ok { opts with port := value }
  | some .type =>
      withValue name rest fun value => .ok { opts with type := value.map Char.toLower }
  | some .target_address =>
      withBytes noByteValue name rest opts.target_address
        fun bytes => { opts with target_address := bytes }
  | some .reply_address =>
      withBytes noByteValue name rest opts.reply_address
        fun bytes => { opts with reply_address := bytes }
  | some .address =>
      withNumber name rest 0xFFFFFFFF (fun _ => true)
        (fun value => "Invalid --address: '" ++ String.ofList value ++ "'\n")
        fun parsed => { opts with address := some parsed.toUInt32 }
  | some .length =>
      withNumber name rest 0xFFFFFFFFFFFFFFFF (fun parsed => parsed != 0)
        (fun value => "Invalid --length: '" ++ String.ofList value ++ "'\n")
        fun parsed => { opts with length := some parsed }
  | some .data =>
      withBytes noByteValue name rest opts.data fun bytes => { opts with data := bytes }
  | none => .error (unknownOption name)

/-- The checks behind the loop of `parseOptions`. -/
def checkOptions (opts : Options) : Except String Options :=
  if opts.type ≠ readText ∧ opts.type ≠ writeText then
    .error "--type must be 'read' or 'write'.\n"
  else if opts.target_address = [] then .error "--target-address is required.\n"
  else if opts.reply_address = [] then .error "--reply-address is required.\n"
  else if opts.address = none then .error "--address is required.\n"
  else if opts.type = readText ∧ opts.length = none then
    .error "--length is required for read operations.\n"
  else if opts.type = writeText ∧ opts.data = [] then
    .error "--data is required for write operations.\n"
  else .ok opts

def parseOptions (args : List Text) : Except String Options := do
  let opts ← parse unknownArgument readOption 0 args {}
  checkOptions opts

/-- What `main` does with its arguments before it connects. -/
inductive Start
  | usage (status : Nat)
  | failed (message : String)
  | run (opts : Options)

def start (args : List Text) : Start :=
  if args = [] then .usage 1
  else if helpText ∈ args then .usage 0
  else
    match parseOptions args with
    | .error message => .failed message
    | .ok opts => .run opts

/-- What one option stands for. -/
inductive Setting
  | ip (value : Text)
  | port (value : Text)
  | type (value : Text)
  | target_address (bytes : List UInt8)
  | reply_address (bytes : List UInt8)
  | address (value : UInt32)
  | length (value : UInt64)
  | data (bytes : List UInt8)

/-- A later value takes the place of an earlier one; bytes are appended. -/
def Setting.apply (opts : Options) : Setting → Options
  | ip value => { opts with ip := value }
  | port value => { opts with port := value }
  | type value => { opts with type := value }
  | target_address bytes => { opts with target_address := opts.target_address ++ bytes }
  | reply_address bytes => { opts with reply_address := opts.reply_address ++ bytes }
  | address value => { opts with address := some value }
  | length value => { opts with length := some value }
  | data bytes => { opts with data := opts.data ++ bytes }

/-- An option with its values. -/
inductive Group : Text → List Text → Setting → Prop
  | ip (value : Text) : Group OptionName.ip.text [value] (.ip value)
  | port (value : Text) : Group OptionName.port.text [value] (.port value)
  | type (value : Text) : Group OptionName.type.text [value] (.type (value.map Char.toLower))
  | target_address {values : List Text} {bytes : List UInt8} (h : Bytes values bytes) :
      Group OptionName.target_address.text values (.target_address bytes)
  | reply_address {values : List Text} {bytes : List UInt8} (h : Bytes values bytes) :
      Group OptionName.reply_address.text values (.reply_address bytes)
  | address {value : Text} {n : UInt64} (h : Number value n) (hle : n ≤ 0xFFFFFFFF) :
      Group OptionName.address.text [value] (.address n.toUInt32)
  | length {value : Text} {n : UInt64} (h : Number value n) (hne : n ≠ 0) :
      Group OptionName.length.text [value] (.length n)
  | data {values : List Text} {bytes : List UInt8} (h : Bytes values bytes) :
      Group OptionName.data.text values (.data bytes)

/-- Nothing is missing. -/
structure Options.Complete (opts : Options) : Prop where
  type : opts.type = readText ∨ opts.type = writeText
  target_address : opts.target_address ≠ []
  reply_address : opts.reply_address ≠ []
  address : opts.address ≠ none
  length : opts.type = readText → opts.length ≠ none
  data : opts.type = writeText → opts.data ≠ []

/-- Every option is read as its group says. -/
theorem readOption_exact : Exact readOption Group (fun setting opts => setting.apply opts) where
  sound := by
    intro name rest opts opts' used h
    unfold readOption at h
    cases hname : OptionName.ofText name with
    | none =>
        rw [hname] at h
        cases h
    | some option =>
        rw [hname] at h
        obtain rfl := OptionName.ofText_eq_some_iff.mp hname
        cases option with
        | ip => exact group_of_withValue h fun value => ⟨_, .ip value, rfl⟩
        | port => exact group_of_withValue h fun value => ⟨_, .port value, rfl⟩
        | type => exact group_of_withValue h fun value => ⟨_, .type value, rfl⟩
        | target_address =>
            exact group_of_withBytes h fun values bytes hbytes => ⟨_, .target_address hbytes, rfl⟩
        | reply_address =>
            exact group_of_withBytes h fun values bytes hbytes => ⟨_, .reply_address hbytes, rfl⟩
        | address =>
            exact group_of_withNumber h fun value n hnumber hle _ =>
              ⟨_, .address hnumber hle, rfl⟩
        | length =>
            exact group_of_withNumber h fun value n hnumber _ haccepts =>
              ⟨_, .length hnumber (bne_iff_ne.mp haccepts), rfl⟩
        | data =>
            exact group_of_withBytes h fun values bytes hbytes => ⟨_, .data hbytes, rfl⟩
  complete := by
    intro name values setting hgroup tail hboundary opts
    unfold readOption
    cases hgroup with
    | ip value =>
        rw [OptionName.ofText_eq_some_iff.mpr rfl]
        exact withValue_eq_ok_iff.mpr ⟨value, tail, rfl, rfl, rfl⟩
    | port value =>
        rw [OptionName.ofText_eq_some_iff.mpr rfl]
        exact withValue_eq_ok_iff.mpr ⟨value, tail, rfl, rfl, rfl⟩
    | type value =>
        rw [OptionName.ofText_eq_some_iff.mpr rfl]
        exact withValue_eq_ok_iff.mpr ⟨value, tail, rfl, rfl, rfl⟩
    | target_address hbytes =>
        rw [OptionName.ofText_eq_some_iff.mpr rfl]
        exact withBytes_eq_ok_iff.mpr ⟨values, tail, _, rfl, hboundary, hbytes, rfl, rfl⟩
    | reply_address hbytes =>
        rw [OptionName.ofText_eq_some_iff.mpr rfl]
        exact withBytes_eq_ok_iff.mpr ⟨values, tail, _, rfl, hboundary, hbytes, rfl, rfl⟩
    | @address value n hnumber hle =>
        rw [OptionName.ofText_eq_some_iff.mpr rfl]
        exact withNumber_eq_ok_iff.mpr ⟨value, tail, n, rfl, rfl, hnumber, hle, rfl, rfl⟩
    | @length value n hnumber hne =>
        rw [OptionName.ofText_eq_some_iff.mpr rfl]
        exact withNumber_eq_ok_iff.mpr
          ⟨value, tail, n, rfl, rfl, hnumber, le_sizeMax n, bne_iff_ne.mpr hne, rfl⟩
    | data hbytes =>
        rw [OptionName.ofText_eq_some_iff.mpr rfl]
        exact withBytes_eq_ok_iff.mpr ⟨values, tail, _, rfl, hboundary, hbytes, rfl, rfl⟩

theorem checkOptions_eq_ok_iff {opts opts' : Options} :
    checkOptions opts = .ok opts' ↔ opts = opts' ∧ opts.Complete := by
  constructor
  · intro h
    unfold checkOptions at h
    split_ifs at h with htype htarget hreply haddress hlength hdata
    cases h
    refine ⟨rfl, ?_, htarget, hreply, haddress, ?_, ?_⟩
    · exact or_iff_not_and_not.mpr htype
    · exact fun hread hnone => hlength ⟨hread, hnone⟩
    · exact fun hwrite hnil => hdata ⟨hwrite, hnil⟩
  · rintro ⟨rfl, h⟩
    rw [checkOptions, if_neg (or_iff_not_and_not.mp h.type), if_neg h.target_address,
      if_neg h.reply_address, if_neg h.address,
      if_neg (fun hread => h.length hread.1 hread.2),
      if_neg (fun hwrite => h.data hwrite.1 hwrite.2)]

theorem parseOptions_eq_ok_iff {args : List Text} {opts : Options} :
    parseOptions args = .ok opts ↔
      ∃ settings, Line Group args settings ∧ opts = settings.foldl Setting.apply {} ∧
        opts.Complete := by
  simp only [parseOptions, bind_eq_ok_iff, parse_eq_ok_iff readOption_exact,
    checkOptions_eq_ok_iff]
  constructor
  · rintro ⟨_, ⟨settings, hline, rfl⟩, rfl, hcomplete⟩
    exact ⟨settings, hline, rfl, hcomplete⟩
  · rintro ⟨settings, hline, rfl, hcomplete⟩
    exact ⟨_, ⟨settings, hline, rfl⟩, rfl, hcomplete⟩

theorem start_eq_run {args : List Text} {opts : Options} (hhelp : helpText ∉ args)
    (h : parseOptions args = .ok opts) : start args = .run opts := by
  have hnil : args ≠ [] := by
    rintro rfl
    cases h
  rw [start, if_neg hnil, if_neg hhelp, h]

/-- The program goes on exactly with the lines of the grammar that leave nothing out and do
not ask for help. -/
theorem start_eq_run_iff (args : List Text) (opts : Options) :
    start args = .run opts ↔
      helpText ∉ args ∧ ∃ settings, Line Group args settings ∧
        opts = settings.foldl Setting.apply {} ∧ opts.Complete := by
  rw [← parseOptions_eq_ok_iff]
  constructor
  · intro h
    unfold start at h
    split_ifs at h with hnil hhelp
    split at h
    · cases h
    · rename_i opts' hparse
      cases h
      exact ⟨hhelp, hparse⟩
  · rintro ⟨hhelp, h⟩
    exact start_eq_run hhelp h

/-- A byte as `performRead` prints it. -/
def printedByte (byte : UInt8) : Text := '0' :: 'x' :: Numeral.printed 16 2 byte.toNat

/-- An address as `performRead` and `performWrite` print it. -/
def printedAddress (address : UInt32) : Text := '0' :: 'x' :: Numeral.printed 16 8 address.toNat

theorem number_printed (width : Nat) (n : UInt64) :
    Number ('0' :: 'x' :: Numeral.printed 16 width n.toNat) n := by
  have hplain : Number ([] ++ ([] ++ '0' :: 'x' :: Numeral.printed 16 width n.toNat))
      (UInt64.ofNat n.toNat) :=
    .plain (List.forall_mem_nil _) (.inl rfl) (Numeral.literal_printed width n.toNat) n.toNat_lt
  rwa [UInt64.ofNat_toNat] at hplain

theorem bytes_printed {bytes : List UInt8} (hne : bytes ≠ []) :
    Bytes (bytes.map printedByte) bytes := by
  refine ⟨mt List.map_eq_nil_iff.mp hne, ?_⟩
  rw [List.forall₂_map_left_iff]
  refine List.forall₂_same.mpr fun byte _ => ⟨byte.toUInt64, ?_, ?_, ?_⟩
  · exact number_printed 2 byte.toUInt64
  · exact UInt64.le_iff_toNat_le.mpr (Nat.le_of_lt_succ byte.toNat_lt)
  · exact byte.toUInt8_toUInt64.symm

namespace Setting

def name : Setting → OptionName
  | ip _ => .ip
  | port _ => .port
  | type _ => .type
  | target_address _ => .target_address
  | reply_address _ => .reply_address
  | address _ => .address
  | length _ => .length
  | data _ => .data

/-- The values in one spelling. Bytes and addresses are spelled as the program prints them, a
length, which it prints in decimal, in hexadecimal digits as well. -/
def values : Setting → List Text
  | ip value => [value]
  | port value => [value]
  | type value => [value]
  | target_address bytes => bytes.map printedByte
  | reply_address bytes => bytes.map printedByte
  | address value => [printedAddress value]
  | length value => ['0' :: 'x' :: Numeral.printed 16 0 value.toNat]
  | data bytes => bytes.map printedByte

def render (setting : Setting) : List Text :=
  ('-' :: '-' :: setting.name.text) :: setting.values

/-- What an option can stand for. -/
def Writable : Setting → Prop
  | type value => value.map Char.toLower = value
  | target_address bytes => bytes ≠ []
  | reply_address bytes => bytes ≠ []
  | length value => value ≠ 0
  | data bytes => bytes ≠ []
  | _ => True

theorem group_values {setting : Setting} (h : setting.Writable) :
    Group setting.name.text setting.values setting := by
  cases setting with
  | ip value => exact .ip value
  | port value => exact .port value
  | type value =>
      have htype := Group.type value
      rwa [h] at htype
  | target_address bytes => exact .target_address (bytes_printed h)
  | reply_address bytes => exact .reply_address (bytes_printed h)
  | address value =>
      have hle : value.toUInt64 ≤ 0xFFFFFFFF :=
        UInt64.le_iff_toNat_le.mpr (Nat.le_of_lt_succ value.toNat_lt)
      have haddress := Group.address (number_printed 8 value.toUInt64) hle
      rwa [UInt32.toUInt32_toUInt64] at haddress
  | length value => exact .length (number_printed 0 value) h
  | data bytes => exact .data (bytes_printed h)

theorem line_render {settings : List Setting} (h : ∀ setting ∈ settings, setting.Writable) :
    Line Group (settings.flatMap render) settings := by
  induction settings with
  | nil => exact .nil
  | cons setting settings ih =>
      obtain ⟨hsetting, hsettings⟩ := List.forall_mem_cons.mp h
      exact .cons (group_values hsetting) (ih hsettings)

/-- Only a value that is taken as it is can ask for help. -/
theorem eq_helpText_of_mem_render {setting : Setting} (h : helpText ∈ setting.render) :
    setting = .ip helpText ∨ setting = .port helpText ∨ setting = .type helpText := by
  have hname : helpText ≠ '-' :: '-' :: setting.name.text := by
    cases setting.name <;> decide
  have hbytes (bytes : List UInt8) : helpText ∉ bytes.map printedByte := by
    intro hmem
    obtain ⟨byte, -, heq⟩ := List.mem_map.mp hmem
    exact absurd (List.cons.inj heq).1 (by decide)
  obtain heq | hmem := List.mem_cons.mp h
  · exact absurd heq hname
  · cases setting with
    | ip value => exact .inl (congrArg ip (List.mem_singleton.mp hmem).symm)
    | port value => exact .inr (.inl (congrArg port (List.mem_singleton.mp hmem).symm))
    | type value => exact .inr (.inr (congrArg type (List.mem_singleton.mp hmem).symm))
    | target_address bytes => exact absurd hmem (hbytes bytes)
    | reply_address bytes => exact absurd hmem (hbytes bytes)
    | address value =>
        exact absurd (List.cons.inj (List.mem_singleton.mp hmem)).1 (by decide)
    | length value =>
        exact absurd (List.cons.inj (List.mem_singleton.mp hmem)).1 (by decide)
    | data bytes => exact absurd hmem (hbytes bytes)

end Setting

namespace Options

/-- The options one by one, without those that are not given. -/
def settings (opts : Options) : List Setting :=
  [.ip opts.ip, .port opts.port, .type opts.type, .target_address opts.target_address,
    .reply_address opts.reply_address] ++ (opts.address.map Setting.address).toList ++
    (opts.length.map Setting.length).toList ++
    (if opts.data = [] then [] else [.data opts.data])

def render (opts : Options) : List Text := opts.settings.flatMap Setting.render

theorem foldl_settings (opts : Options) : opts.settings.foldl Setting.apply {} = opts := by
  obtain ⟨ip, port, type, target_address, reply_address, address, length, data⟩ := opts
  cases address <;> cases length <;> by_cases hdata : data = [] <;>
    simp [settings, Setting.apply, hdata]

theorem forall_mem_settings {opts : Options} {P : Setting → Prop} (ip : P (.ip opts.ip))
    (port : P (.port opts.port)) (type : P (.type opts.type))
    (target_address : P (.target_address opts.target_address))
    (reply_address : P (.reply_address opts.reply_address))
    (address : ∀ value, opts.address = some value → P (.address value))
    (length : ∀ value, opts.length = some value → P (.length value))
    (data : opts.data ≠ [] → P (.data opts.data)) : ∀ setting ∈ opts.settings, P setting := by
  simp only [settings, List.forall_mem_append, List.forall_mem_cons, Option.mem_toList,
    Option.map_eq_some_iff]
  refine ⟨⟨⟨⟨ip, port, type, target_address, reply_address, List.forall_mem_nil _⟩, ?_⟩, ?_⟩, ?_⟩
  · rintro _ ⟨value, hvalue, rfl⟩
    exact address value hvalue
  · rintro _ ⟨value, hvalue, rfl⟩
    exact length value hvalue
  · split
    · exact List.forall_mem_nil _
    · rename_i hne
      exact List.forall_mem_singleton.mpr (data hne)

theorem Complete.writable {opts : Options} (h : opts.Complete) (hlength : opts.length ≠ some 0) :
    ∀ setting ∈ opts.settings, setting.Writable := by
  have htype : opts.type.map Char.toLower = opts.type := by
    obtain htype | htype := h.type
    · rw [htype]
      decide
    · rw [htype]
      decide
  apply forall_mem_settings
  · trivial
  · trivial
  · exact htype
  · exact h.target_address
  · exact h.reply_address
  · exact fun _ _ => trivial
  · rintro _ hvalue rfl
    exact hlength hvalue
  · exact id

theorem parseOptions_render {opts : Options} (h : opts.Complete) (hlength : opts.length ≠ some 0) :
    parseOptions opts.render = .ok opts :=
  parseOptions_eq_ok_iff.mpr ⟨opts.settings, Setting.line_render (h.writable hlength),
    opts.foldl_settings.symm, h⟩

theorem Complete.helpText_notMem_render {opts : Options} (h : opts.Complete)
    (hip : opts.ip ≠ helpText) (hport : opts.port ≠ helpText) : helpText ∉ opts.render := by
  have htype : opts.type ≠ helpText := by
    obtain htype | htype := h.type
    · rw [htype]
      decide
    · rw [htype]
      decide
  have hplain : ∀ setting ∈ opts.settings,
      ¬(setting = .ip helpText ∨ setting = .port helpText ∨ setting = .type helpText) := by
    apply forall_mem_settings <;> simp [hip, hport, htype]
  intro hhelp
  obtain ⟨setting, hsetting, hmem⟩ := List.mem_flatMap.mp hhelp
  exact hplain setting hsetting (Setting.eq_helpText_of_mem_render hmem)

/-- Every complete set of options has a command line that is understood as these options, with
the numbers as the program prints them. -/
theorem start_render (opts : Options) (hcomplete : opts.Complete) (hlength : opts.length ≠ some 0)
    (hip : opts.ip ≠ helpText) (hport : opts.port ≠ helpText) : start opts.render = .run opts :=
  start_eq_run (hcomplete.helpText_notMem_render hip hport) (parseOptions_render hcomplete hlength)

end Options

/-- A read of three bytes. -/
def threeBytes : Options :=
  { type := readText, target_address := [3, 6], reply_address := [2, 6],
    address := some 0x20000000, length := some 3 }

theorem threeBytes_complete : threeBytes.Complete :=
  ⟨.inl rfl, by decide, by decide, by decide, by decide, by decide⟩

theorem start_render_threeBytes : start threeBytes.render = .run threeBytes :=
  Options.start_render threeBytes threeBytes_complete (by decide) (by decide) (by decide)

end SpwRmap.App
