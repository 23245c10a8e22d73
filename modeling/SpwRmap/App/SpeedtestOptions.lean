import SpwRmap.App.Speedtest
import SpwRmap.App.Values

/-!
# The options of the speed test

The speed test has a parser of its own. Other than that of `spwrmap` it finds `--help` only
where an option is expected, and it stops there. What it runs with has passed the check of the
address range as well.
-/

namespace SpwRmap.Speedtest

open Arguments App Outcome

structure Options where
  ip : Text := ['1', '2', '7', '.', '0', '.', '0', '.', '1']
  port : Text := ['1', '0', '0', '3', '0']
  target_address : List UInt8 := []
  reply_address : List UInt8 := []
  ntimes : Option UInt64 := none
  nbytes : Option UInt64 := none
  start_address : Option UInt32 := none

inductive OptionName
  | ip | port | target_address | reply_address | ntimes | nbytes | start_address | help
deriving DecidableEq

namespace OptionName

def text : OptionName → Text
  | ip => ['i', 'p']
  | port => ['p', 'o', 'r', 't']
  | target_address => ['t', 'a', 'r', 'g', 'e', 't', '-', 'a', 'd', 'd', 'r', 'e', 's', 's']
  | reply_address => ['r', 'e', 'p', 'l', 'y', '-', 'a', 'd', 'd', 'r', 'e', 's', 's']
  | ntimes => ['n', 't', 'i', 'm', 'e', 's']
  | nbytes => ['n', 'b', 'y', 't', 'e', 's']
  | start_address => ['s', 't', 'a', 'r', 't', '_', 'a', 'd', 'd', 'r', 'e', 's', 's']
  | help => ['h', 'e', 'l', 'p']

/-- The comparisons of `parseOptions`, in order. -/
def ofText (name : Text) : Option OptionName :=
  [ip, port, target_address, reply_address, ntimes, nbytes, start_address, help].find?
    (·.text = name)

theorem ofText_eq_some_iff {name : Text} {option : OptionName} :
    ofText name = some option ↔ name = option.text := by
  constructor
  · intro h
    have hfound := List.find?_some h
    exact (of_decide_eq_true hfound).symm
  · rintro rfl
    cases option <;> decide

end OptionName

/-- Why the program ends before the test: it has called `std::exit(0)` or written an error, or
it has looked into an empty optional. -/
inductive Stop
  | help
  | failed (message : String)
  | undefined

def noByte : String := " requires at least one byte.\n"

/-- One option of `parseOptions`, and how many arguments behind it belong to it. -/
def readOption (name : Text) (rest : List Text) (opts : Options) :
    Except Stop (Options × Nat) :=
  match OptionName.ofText name with
  | some .ip =>
      (withValue name rest fun value => .ok { opts with ip := value }).mapError .failed
  | some .port =>
      (withValue name rest fun value => .ok { opts with port := value }).mapError .failed
  | some .target_address =>
      (withBytes noByte name rest opts.target_address
        fun bytes => { opts with target_address := bytes }).mapError .failed
  | some .reply_address =>
      (withBytes noByte name rest opts.reply_address
        fun bytes => { opts with reply_address := bytes }).mapError .failed
  | some .ntimes =>
      (withNumber name rest 0xFFFFFFFFFFFFFFFF (fun parsed => parsed != 0)
        (fun value => "Invalid --ntimes: '" ++ String.ofList value ++ "'\n")
        fun parsed => { opts with ntimes := some parsed }).mapError .failed
  | some .nbytes =>
      (withNumber name rest 0xFFFFFFFFFFFFFFFF (fun parsed => parsed != 0 && decide (parsed ≤ 0xFFFFFFFF))
        (fun _ => "--nbytes must be within [1, 0xFFFFFFFF].\n")
        fun parsed => { opts with nbytes := some parsed }).mapError .failed
  | some .start_address =>
      (withNumber name rest 0xFFFFFFFF (fun _ => true)
        (fun value => "Invalid --start_address: '" ++ String.ofList value ++ "'\n")
        fun parsed => { opts with start_address := some parsed.toUInt32 }).mapError .failed
  | some .help => .error .help
  | none => .error (.failed (unknownOption name))

/-- The checks behind the loop of `parseOptions`. -/
def checkOptions (opts : Options) : Except Stop Options :=
  if opts.target_address = [] then .error (.failed "--target-address is required.\n")
  else if opts.reply_address = [] then .error (.failed "--reply-address is required.\n")
  else if opts.ntimes = none then .error (.failed "--ntimes is required.\n")
  else if opts.nbytes = none then .error (.failed "--nbytes is required.\n")
  else if opts.start_address = none then .error (.failed "--start_address is required.\n")
  else .ok opts

def parseOptions (args : List Text) : Except Stop Options := do
  let opts ← parse (fun arg => .failed (unknownArgument arg)) readOption 0 args {}
  checkOptions opts

/-- What the test runs with. -/
structure Parameters where
  ip : Text
  port : Text
  target_address : List UInt8
  reply_address : List UInt8
  ntimes : UInt64
  total_bytes : UInt64
  base_address : UInt32

/-- `main` until it makes the pattern. -/
def start (args : List Text) : Except Stop Parameters := do
  let opts ← parseOptions args
  match opts.ntimes, opts.nbytes, opts.start_address with
  | some ntimes, some total_bytes, some base_address =>
      if inRange base_address total_bytes.toNat then
        .ok ⟨opts.ip, opts.port, opts.target_address, opts.reply_address, ntimes, total_bytes,
          base_address⟩
      else
        .error (.failed "--start_address + --nbytes exceeds 32-bit address space.\n")
  | _, _, _ => .error .undefined

/-- What one option stands for. -/
inductive Setting
  | ip (value : Text)
  | port (value : Text)
  | target_address (bytes : List UInt8)
  | reply_address (bytes : List UInt8)
  | ntimes (value : UInt64)
  | nbytes (value : UInt64)
  | start_address (value : UInt32)

def Setting.apply (opts : Options) : Setting → Options
  | ip value => { opts with ip := value }
  | port value => { opts with port := value }
  | target_address bytes => { opts with target_address := opts.target_address ++ bytes }
  | reply_address bytes => { opts with reply_address := opts.reply_address ++ bytes }
  | ntimes value => { opts with ntimes := some value }
  | nbytes value => { opts with nbytes := some value }
  | start_address value => { opts with start_address := some value }

/-- An option with its values. -/
inductive Group : Text → List Text → Setting → Prop
  | ip (value : Text) : Group OptionName.ip.text [value] (.ip value)
  | port (value : Text) : Group OptionName.port.text [value] (.port value)
  | target_address {values : List Text} {bytes : List UInt8} (h : Bytes values bytes) :
      Group OptionName.target_address.text values (.target_address bytes)
  | reply_address {values : List Text} {bytes : List UInt8} (h : Bytes values bytes) :
      Group OptionName.reply_address.text values (.reply_address bytes)
  | ntimes {value : Text} {n : UInt64} (h : Number value n) (hne : n ≠ 0) :
      Group OptionName.ntimes.text [value] (.ntimes n)
  | nbytes {value : Text} {n : UInt64} (h : Number value n) (hne : n ≠ 0)
      (hle : n ≤ 0xFFFFFFFF) : Group OptionName.nbytes.text [value] (.nbytes n)
  | start_address {value : Text} {n : UInt64} (h : Number value n) (hle : n ≤ 0xFFFFFFFF) :
      Group OptionName.start_address.text [value] (.start_address n.toUInt32)

theorem mapError_eq_ok_iff {σ : Type} {x : Except String σ} {a : σ} :
    x.mapError Stop.failed = .ok a ↔ x = .ok a := by
  cases x with
  | error e => simp [Except.mapError]
  | ok b => simp [Except.mapError]

/-- Every option is read as its group says. -/
theorem readOption_exact : Exact readOption Group (fun setting opts => setting.apply opts) where
  sound := by
    intro name rest opts opts' used h
    unfold readOption at h
    cases hname : OptionName.ofText name with
    | none =>
        rw [hname] at h
        cases h
    | some option =>
        rw [hname] at h
        obtain rfl := OptionName.ofText_eq_some_iff.mp hname
        cases option with
        | ip =>
            exact group_of_withValue (mapError_eq_ok_iff.mp h) fun value => ⟨_, .ip value, rfl⟩
        | port =>
            exact group_of_withValue (mapError_eq_ok_iff.mp h) fun value => ⟨_, .port value, rfl⟩
        | target_address =>
            exact group_of_withBytes (mapError_eq_ok_iff.mp h)
              fun values bytes hbytes => ⟨_, .target_address hbytes, rfl⟩
        | reply_address =>
            exact group_of_withBytes (mapError_eq_ok_iff.mp h)
              fun values bytes hbytes => ⟨_, .reply_address hbytes, rfl⟩
        | ntimes =>
            exact group_of_withNumber (mapError_eq_ok_iff.mp h)
              fun value n hnumber _ haccepts =>
                ⟨_, .ntimes hnumber (bne_iff_ne.mp haccepts), rfl⟩
        | nbytes =>
            refine group_of_withNumber (mapError_eq_ok_iff.mp h)
              fun value n hnumber _ haccepts => ?_
            obtain ⟨hne, hle⟩ := Bool.and_eq_true_iff.mp haccepts
            exact ⟨_, .nbytes hnumber (bne_iff_ne.mp hne) (of_decide_eq_true hle), rfl⟩
        | start_address =>
            exact group_of_withNumber (mapError_eq_ok_iff.mp h)
              fun value n hnumber hle _ => ⟨_, .start_address hnumber hle, rfl⟩
        | help => cases h
  complete := by
    intro name values setting hgroup tail hboundary opts
    unfold readOption
    cases hgroup with
    | ip value =>
        rw [OptionName.ofText_eq_some_iff.mpr rfl]
        exact mapError_eq_ok_iff.mpr (withValue_eq_ok_iff.mpr ⟨value, tail, rfl, rfl, rfl⟩)
    | port value =>
        rw [OptionName.ofText_eq_some_iff.mpr rfl]
        exact mapError_eq_ok_iff.mpr (withValue_eq_ok_iff.mpr ⟨value, tail, rfl, rfl, rfl⟩)
    | target_address hbytes =>
        rw [OptionName.ofText_eq_some_iff.mpr rfl]
        exact mapError_eq_ok_iff.mpr
          (withBytes_eq_ok_iff.mpr ⟨values, tail, _, rfl, hboundary, hbytes, rfl, rfl⟩)
    | reply_address hbytes =>
        rw [OptionName.ofText_eq_some_iff.mpr rfl]
        exact mapError_eq_ok_iff.mpr
          (withBytes_eq_ok_iff.mpr ⟨values, tail, _, rfl, hboundary, hbytes, rfl, rfl⟩)
    | @ntimes value n hnumber hne =>
        rw [OptionName.ofText_eq_some_iff.mpr rfl]
        exact mapError_eq_ok_iff.mpr (withNumber_eq_ok_iff.mpr
          ⟨value, tail, n, rfl, rfl, hnumber, le_sizeMax n, bne_iff_ne.mpr hne, rfl⟩)
    | @nbytes value n hnumber hne hle =>
        rw [OptionName.ofText_eq_some_iff.mpr rfl]
        have haccepts : (n != 0 && decide (n ≤ 0xFFFFFFFF)) = true :=
          Bool.and_eq_true_iff.mpr ⟨bne_iff_ne.mpr hne, decide_eq_true hle⟩
        exact mapError_eq_ok_iff.mpr (withNumber_eq_ok_iff.mpr
          ⟨value, tail, n, rfl, rfl, hnumber, le_sizeMax n, haccepts, rfl⟩)
    | @start_address value n hnumber hle =>
        rw [OptionName.ofText_eq_some_iff.mpr rfl]
        exact mapError_eq_ok_iff.mpr (withNumber_eq_ok_iff.mpr
          ⟨value, tail, n, rfl, rfl, hnumber, hle, rfl, rfl⟩)

/-- Nothing is missing. -/
structure Options.Complete (opts : Options) : Prop where
  target_address : opts.target_address ≠ []
  reply_address : opts.reply_address ≠ []
  ntimes : opts.ntimes ≠ none
  nbytes : opts.nbytes ≠ none
  start_address : opts.start_address ≠ none

theorem checkOptions_eq_ok_iff {opts opts' : Options} :
    checkOptions opts = .ok opts' ↔ opts = opts' ∧ opts.Complete := by
  constructor
  · intro h
    unfold checkOptions at h
    split_ifs at h with htarget hreply hntimes hnbytes hstart
    cases h
    exact ⟨rfl, htarget, hreply, hntimes, hnbytes, hstart⟩
  · rintro ⟨rfl, h⟩
    rw [checkOptions, if_neg h.target_address, if_neg h.reply_address, if_neg h.ntimes,
      if_neg h.nbytes, if_neg h.start_address]

theorem parseOptions_eq_ok_iff {args : List Text} {opts : Options} :
    parseOptions args = .ok opts ↔
      ∃ settings, Line Group args settings ∧ opts = settings.foldl Setting.apply {} ∧
        opts.Complete := by
  simp only [parseOptions, bind_eq_ok_iff, parse_eq_ok_iff readOption_exact,
    checkOptions_eq_ok_iff]
  constructor
  · rintro ⟨_, ⟨settings, hline, rfl⟩, rfl, hcomplete⟩
    exact ⟨settings, hline, rfl, hcomplete⟩
  · rintro ⟨settings, hline, rfl, hcomplete⟩
    exact ⟨_, ⟨settings, hline, rfl⟩, rfl, hcomplete⟩

/-- Only a number that is checked gets into the options. -/
structure Options.Checked (opts : Options) : Prop where
  ntimes : opts.ntimes ≠ some 0
  nbytes : ∀ total_bytes ∈ opts.nbytes, total_bytes ≠ 0 ∧ total_bytes ≤ 0xFFFFFFFF

theorem Options.Checked.apply {opts : Options} (h : opts.Checked) {name : Text}
    {values : List Text} {setting : Setting} (hgroup : Group name values setting) :
    (setting.apply opts).Checked := by
  cases hgroup with
  | ip _ => exact ⟨h.ntimes, h.nbytes⟩
  | port _ => exact ⟨h.ntimes, h.nbytes⟩
  | target_address _ => exact ⟨h.ntimes, h.nbytes⟩
  | reply_address _ => exact ⟨h.ntimes, h.nbytes⟩
  | start_address _ _ => exact ⟨h.ntimes, h.nbytes⟩
  | ntimes _ hne => exact ⟨fun heq => hne (Option.some.inj heq), h.nbytes⟩
  | nbytes _ hne hle =>
      refine ⟨h.ntimes, ?_⟩
      rintro _ ⟨⟩
      exact ⟨hne, hle⟩

theorem Options.Checked.foldl {args : List Text} {settings : List Setting}
    (hline : Line Group args settings) {opts : Options} (h : opts.Checked) :
    (settings.foldl Setting.apply opts).Checked := by
  induction hline generalizing opts with
  | nil => exact h
  | cons hgroup _ ih => exact ih (h.apply hgroup)

/-- The options that make these parameters. -/
def Parameters.options (p : Parameters) : Options :=
  ⟨p.ip, p.port, p.target_address, p.reply_address, some p.ntimes, some p.total_bytes,
    some p.base_address⟩

theorem mapError_yields {σ : Type} (x : Except String σ) :
    Yields (· ≠ Stop.undefined) (fun _ => True) (x.mapError Stop.failed) := by
  cases x with
  | error e =>
      rintro ⟨⟩
  | ok a => trivial

theorem readOption_yields (name : Text) (rest : List Text) (opts : Options) :
    Yields (· ≠ Stop.undefined) (fun _ => True) (readOption name rest opts) := by
  unfold readOption
  split
  case h_8 => rintro ⟨⟩
  case h_9 => rintro ⟨⟩
  all_goals exact mapError_yields _

theorem checkOptions_yields (opts : Options) :
    Yields (· ≠ Stop.undefined) (fun opts => opts.Complete) (checkOptions opts) := by
  cases hcheck : checkOptions opts with
  | ok opts' =>
      obtain ⟨rfl, hcomplete⟩ := checkOptions_eq_ok_iff.mp hcheck
      exact hcomplete
  | error e =>
      rintro rfl
      unfold checkOptions at hcheck
      split_ifs at hcheck <;> cases hcheck

theorem parseOptions_yields (args : List Text) :
    Yields (· ≠ Stop.undefined) (fun opts => opts.Complete) (parseOptions args) :=
  (parse_yields (by rintro _ ⟨⟩) readOption_yields 0 args {}).bind
    fun opts _ => checkOptions_yields opts

theorem Options.Complete.exists_parameters {opts : Options} (h : opts.Complete) :
    ∃ p : Parameters, p.options = opts := by
  obtain ⟨ntimes, hntimes⟩ := Option.ne_none_iff_exists'.mp h.ntimes
  obtain ⟨nbytes, hnbytes⟩ := Option.ne_none_iff_exists'.mp h.nbytes
  obtain ⟨start_address, hstart⟩ := Option.ne_none_iff_exists'.mp h.start_address
  refine ⟨⟨opts.ip, opts.port, opts.target_address, opts.reply_address, ntimes, nbytes,
    start_address⟩, ?_⟩
  rw [Parameters.options, ← hntimes, ← hnbytes, ← hstart]

/-- What `main` does with complete options. -/
theorem start_of_parseOptions {args : List Text} {p : Parameters}
    (h : parseOptions args = .ok p.options) :
    start args = if inRange p.base_address p.total_bytes.toNat then .ok p
      else .error (.failed "--start_address + --nbytes exceeds 32-bit address space.\n") := by
  rw [start, h]
  rfl

theorem inRange_iff {base_address : UInt32} {total_bytes : Nat} :
    inRange base_address total_bytes = true ↔ base_address.toNat + total_bytes ≤ 2 ^ 32 := by
  simp [inRange]

theorem start_eq_ok_iff {args : List Text} {p : Parameters} :
    start args = .ok p ↔ parseOptions args = .ok p.options ∧
      p.base_address.toNat + p.total_bytes.toNat ≤ 2 ^ 32 := by
  constructor
  · intro h
    obtain ⟨opts, hopts, -⟩ := bind_eq_ok_iff.mp h
    have hcomplete := parseOptions_yields args
    rw [hopts] at hcomplete
    obtain ⟨p', rfl⟩ := hcomplete.exists_parameters
    rw [start_of_parseOptions hopts] at h
    split at h
    · rename_i hrange
      cases h
      exact ⟨hopts, inRange_iff.mp hrange⟩
    · cases h
  · rintro ⟨hopts, hrange⟩
    rw [start_of_parseOptions hopts, if_pos (inRange_iff.mpr hrange)]

theorem start_ne_undefined (args : List Text) : start args ≠ .error .undefined := by
  have hparsed := parseOptions_yields args
  cases hparse : parseOptions args with
  | error e =>
      rw [hparse] at hparsed
      rw [start, hparse]
      exact fun heq => hparsed (Except.error.inj heq)
  | ok opts =>
      rw [hparse] at hparsed
      obtain ⟨p, rfl⟩ := hparsed.exists_parameters
      rw [start_of_parseOptions hparse]
      split
      · rintro ⟨⟩
      · rintro ⟨⟩

/-- The test runs exactly with the command lines of the grammar that leave nothing out and
stay in the address space; it never looks into an empty optional, and what it runs with is
in its bounds. -/
theorem start_spec (args : List Text) :
    start args ≠ .error .undefined ∧ ∀ p, (start args = .ok p ↔
      (∃ settings, Line Group args settings ∧ settings.foldl Setting.apply {} = p.options) ∧
        p.target_address ≠ [] ∧ p.reply_address ≠ [] ∧
        p.base_address.toNat + p.total_bytes.toNat ≤ 2 ^ 32) ∧
      (start args = .ok p →
        p.ntimes ≠ 0 ∧ p.total_bytes ≠ 0 ∧ p.total_bytes ≤ 0xFFFFFFFF) := by
  refine ⟨start_ne_undefined args, fun p => ⟨?_, ?_⟩⟩
  · rw [start_eq_ok_iff, parseOptions_eq_ok_iff]
    constructor
    · rintro ⟨⟨settings, hline, hoptions, hcomplete⟩, hrange⟩
      exact ⟨⟨settings, hline, hoptions.symm⟩, hcomplete.target_address,
        hcomplete.reply_address, hrange⟩
    · rintro ⟨⟨settings, hline, hoptions⟩, htarget, hreply, hrange⟩
      have hcomplete : p.options.Complete := by
        refine ⟨htarget, hreply, ?_, ?_, ?_⟩
        · rintro ⟨⟩
        · rintro ⟨⟩
        · rintro ⟨⟩
      exact ⟨⟨settings, hline, hoptions.symm, hcomplete⟩, hrange⟩
  · intro h
    obtain ⟨settings, hline, hoptions, -⟩ := parseOptions_eq_ok_iff.mp (start_eq_ok_iff.mp h).1
    have hnothing : Options.Checked {} := by
      refine ⟨?_, ?_⟩
      · rintro ⟨⟩
      · rintro _ ⟨⟩
    have hchecked := hnothing.foldl hline
    rw [← hoptions] at hchecked
    exact ⟨fun heq => hchecked.ntimes (congrArg some heq), hchecked.nbytes _ rfl⟩

end SpwRmap.Speedtest
