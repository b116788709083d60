import MockData.Provider.Lorem
import MockData.Text.Basic
import MockData.Vocabulary.Business
import MockData.Vocabulary.Names
import MockData.Vocabulary.Network
import MockData.Vocabulary.Places

/-!
# The catalog

Names, addresses, companies, network names and the like, composed of entries of word tables. Where a
locale has a table of its own that one is used. None of them takes arguments, apart from the length
of a password.
-/

namespace MockData

namespace Catalog

variable {σ : Type} [RandomSource σ]

abbrev Localized (σ : Type) := Locale → Draw σ String

def tableFor (english portuguese : WordTable) : Localized σ
  | .enUS => english.pick
  | .ptBR => portuguese.pick

/-- A digit for every `#` and a digit other than zero for every `^`. -/
def fillDigits : List Char → Draw σ (List Char)
  | [] => return []
  | c :: rest => do
    let filled ←
      if c = '#' then Nat.digitChar <$> Draw.below32 10
      else if c = '^' then (fun n => Nat.digitChar (n + 1)) <$> Draw.below32 9
      else pure c
    return filled :: (← fillDigits rest)

def formatted (formats : WordTable) : Draw σ String := do
  return String.ofList (← fillDigits (← formats.pick).toList)

def lowBits (bits : Nat) : Draw σ Nat := do return (← Draw.word32) % (1 <<< bits)

def firstName : Localized σ := tableFor Vocabulary.firstNames Vocabulary.firstNamesPortuguese

def lastName : Localized σ := tableFor Vocabulary.lastNames Vocabulary.lastNamesPortuguese

def fullName : Localized σ := fun locale => do
  let first ← firstName locale
  let last ← lastName locale
  return first ++ " " ++ last

def jobTitle : Draw σ String := do
  let seniority ← Vocabulary.jobSeniorities.pick
  let field ← Vocabulary.jobFields.pick
  let position ← Vocabulary.jobPositions.pick
  return seniority ++ " " ++ field ++ " " ++ position

/-- A first name in lower case, alone or with a number or a word beside it. -/
def userName : Localized σ := fun locale => do
  let kind ← lowBits 8
  if kind = 1 ∨ kind = 2 then
    let word ← Vocabulary.userNameWords.pick
    return word ++ "." ++ Text.lowerString (← firstName locale)
  else
    let name := Text.lowerString (← firstName locale)
    if kind = 0 then return name
    else if kind = 3 ∨ kind = 4 then return name ++ toString (← lowBits 8)
    else return name ++ "_" ++ (← Vocabulary.userNameWords.pick)

/-- The letter without its accent, for the accents of Portuguese vowels. -/
def withoutAccent (c : Char) : Char :=
  if c = 'á' || c = 'â' || c = 'ã' then 'a'
  else if c = 'é' || c = 'ê' then 'e'
  else if c = 'í' then 'i'
  else if c = 'ó' || c = 'ô' then 'o'
  else if c = 'ú' then 'u'
  else c

def email : Localized σ := fun locale => do
  let user ← userName locale
  let host ← tableFor Vocabulary.mailHosts Vocabulary.mailHostsPortuguese locale
  return String.ofList (user.toList.map withoutAccent) ++ "@" ++ host

def domainName : Localized σ := fun locale => do
  let word ← Lorem.pickWord
  let suffix ← tableFor Vocabulary.domainSuffixes Vocabulary.domainSuffixesPortuguese locale
  return word ++ "." ++ suffix

def url : Localized σ := fun locale => do return "https://" ++ (← domainName locale)

def ipv4 : Draw σ String := do
  let bytes ← Draw.replicate 4 (lowBits 8)
  return ".".intercalate (bytes.map toString)

def ipv6 : Draw σ String := do
  let groups ← Draw.replicate 8 (lowBits 16)
  return ":".intercalate (groups.map fun n =>
    String.ofList ((Nat.toDigits 16 n).map Char.toUpper))

/-- A first or a last name and a suffix, with or without a prefix and a full name. -/
def city : Localized σ := fun locale => do
  let kind ← Draw.below32 5
  if kind = 0 then
    let before ← Vocabulary.cityPrefixes.pick
    let name ← fullName locale
    let after ← Vocabulary.citySuffixes.pick
    return before ++ " " ++ name ++ " " ++ after
  else
    let name ← if kind = 1 then firstName locale else lastName locale
    let after ← Vocabulary.citySuffixes.pick
    return name ++ " " ++ after

def state : Localized σ := tableFor Vocabulary.states Vocabulary.statesPortuguese

def zipCode : Draw σ String := formatted Vocabulary.zipFormats

/-- A Portuguese street is named after its kind, an English one before it. -/
def street : Localized σ := fun locale => do
  let bit ← Draw.word32
  let name ← if 0x80000000 ≤ bit then firstName locale else lastName locale
  match locale with
  | .enUS => return name ++ " " ++ (← Vocabulary.streetSuffixes.pick)
  | .ptBR => return (← Vocabulary.streetSuffixesPortuguese.pick) ++ " " ++ name

def streetAddress : Localized σ := fun locale => do
  let number ← formatted Vocabulary.buildingNumberFormats
  let name ← street locale
  return number ++ " " ++ name

/-- Two names are drawn also when only one of them shows. -/
def companyName : Localized σ := fun locale => do
  let form ← Draw.below32 2
  let name ← lastName locale
  let second ← lastName locale
  let suffix ← tableFor Vocabulary.companySuffixes Vocabulary.companySuffixesPortuguese locale
  if form = 0 then return name ++ " " ++ suffix
  else return name ++ " and " ++ second ++ " " ++ suffix

def slogan : Draw σ String := do
  let head ← Vocabulary.sloganHeads.pick
  let middle ← Vocabulary.sloganMiddles.pick
  let tail ← Vocabulary.sloganTails.pick
  return head ++ " " ++ middle ++ " " ++ tail

def phoneNumber : Localized σ
  | .enUS => formatted Vocabulary.phoneFormats
  | .ptBR => formatted Vocabulary.phoneFormatsPortuguese

def entries : List (String × Localized σ) :=
  [("person.firstName", firstName),
   ("person.lastName", lastName),
   ("person.fullName", fullName),
   ("person.prefix", fun _ => Vocabulary.nameTitles.pick),
   ("person.suffix", fun _ => Vocabulary.nameSuffixes.pick),
   ("person.jobTitle", fun _ => jobTitle),
   ("internet.email", email),
   ("internet.userName", userName),
   ("internet.domainName", domainName),
   ("internet.url", url),
   ("internet.ipv4", fun _ => ipv4),
   ("internet.ipv6", fun _ => ipv6),
   ("internet.userAgent", fun _ => Vocabulary.userAgents.pick),
   ("location.city", city),
   ("location.country", fun _ => Vocabulary.countries.pick),
   ("location.state", state),
   ("location.streetAddress", streetAddress),
   ("location.zipCode", fun _ => zipCode),
   ("company.name", companyName),
   ("company.catchPhrase", fun _ => slogan),
   ("company.buzzword", fun _ => Vocabulary.sloganHeads.pick),
   ("phone.number", phoneNumber),
   ("finance.currencyCode", fun _ => Vocabulary.currencyCodes.pick)]

/-- The provider of an entry takes no arguments. -/
def provider (path : String) (text : Localized σ) : Provider σ := .planned path [] fun _ _ =>
  .ok fun context => .string <$> text context.locale

def passwordParameters : List Parameter := [⟨"length", .count, false⟩]

/-- The length of a password is a draw from a range of one value, whose end is one more and so must
be a word too. Limits of memory are left out: a length of `2 ^ 63` or more gives a value here,
though no text has room for it. -/
def password : Provider σ := .planned "internet.password" passwordParameters fun _ a =>
  let length := (a.count? "length").getD 15
  if length = 0 then .error (.because "length must be > 0")
  else if length + 1 = 0 then .error .emptyRange
  else .ok fun _ => do
    let extra ← if length.toNat < 0x100000000 then Draw.below32 1 else Draw.below64 1
    let characters ← Draw.replicate (length.toNat + extra) Vocabulary.passwordCharacters.pick
    return .string ("".intercalate characters)

end Catalog

end MockData
