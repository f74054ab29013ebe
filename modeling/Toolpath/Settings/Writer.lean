import Toolpath.Settings.Reader

/-!
Writing a configuration. JSON names every setting; TOML leaves out offsets that are not given, and
writes numbers without exponents.
-/

namespace Toolpath.Settings

open Scene

namespace Config

def toJson (c : Config) : Json :=
  let view := [Json.ofFloat c.view.scale, .ofFloat c.view.canvasWidth, .ofFloat c.view.canvasHeight,
    .ofOption .ofFloat c.view.offsetX, .ofOption .ofFloat c.view.offsetY]
  let radii := [c.radii.hit, c.radii.ring, c.radii.subNode, c.radii.center].map Json.ofFloat
  .object (names.zip [.object (View.names.zip view), .object (radiusNames.zip radii),
    .object (editorNames.zip [.ofNat c.historyDepth])])

def tomlFloat (x : Float) : Text :=
  match Number.exact x with
  | .nan => "nan".toList
  | .infinite negative => Number.signed negative "inf".toList
  | .finite d =>
    Number.signed d.negative (if d.mantissa = 0 then "0.0".toList else (Number.shortest .awayFromZero d).plain)

def tomlLine (name value : Text) : Text := name ++ " = ".toList ++ value ++ ['\n']

def tomlSection (header : Text) (names : List Text) (values : List (Option Text)) : Text :=
  '[' :: header ++ [']', '\n'] ++
    (names.zip values).flatMap fun (name, value) => (value.map (tomlLine name)).getD []

def tomlGreatest : Nat := 0x7FFFFFFFFFFFFFFF

def toToml? (c : Config) : Option Text :=
  if tomlGreatest < c.historyDepth then none
  else
    let view := [some (tomlFloat c.view.scale), some (tomlFloat c.view.canvasWidth),
      some (tomlFloat c.view.canvasHeight), c.view.offsetX.map tomlFloat, c.view.offsetY.map tomlFloat]
    let radii := [c.radii.hit, c.radii.ring, c.radii.subNode, c.radii.center].map fun x => some (tomlFloat x)
    let sections := [(View.names, view), (radiusNames, radii), (editorNames, [some (Text.ofNat c.historyDepth)])]
    some (Text.unlines ((names.zip sections).map fun (header, ns, vs) => tomlSection header ns vs))

def write (f : Format) (c : Config) : Except SettingsError Text :=
  match f with
  | .json => .ok c.toJson.pretty
  | .toml =>
    match c.toToml? with
    | some t => .ok t
    | none => .error .unwritableToml

end Config

end Toolpath.Settings
