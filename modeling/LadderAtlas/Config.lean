import LadderAtlas.Fetch.Exchange
import LadderAtlas.Graph.Graph
import LadderAtlas.Toml.Document

/-! # The configuration

A configuration is a TOML document. Every setting may be missing, but of the edges of a graph either
all four are given or none. A configuration that reads is checked as a whole before it is used.
-/

namespace LadderAtlas

/-- The site that statistics come from. -/
structure Site where
  dynamicUrl : String
  staticUrl : String
  /-- The version that is shown where none is selected. -/
  defaultVersion : Id
  deriving Repr, DecidableEq

structure Config where
  dataDirectory : String
  logLevel : String
  site : Site
  fetch : FetchOptions
  graph : GraphOptions Float
  deriving Repr

inductive ConfigFault where
  | badUrl (setting value : String) (problem : UrlError)
  | noTimeout
  /-- Graphs would have no height for any width. -/
  | flatGraph
  /-- Graphs might have no height. -/
  | lowGraph
  deriving Repr, DecidableEq

def ConfigFault.message : ConfigFault → String
  | .badUrl setting value problem => setting ++ " '" ++ value ++ "': " ++ problem.message
  | .noTimeout => "Fetch timeout must be greater than 0"
  | .flatGraph => "Graph aspect must be greater than 0"
  | .lowGraph => "Graph min height must be greater than 0"

inductive ConfigError where
  | unreadable
  | malformed
  | invalid (fault : ConfigFault)
  deriving Repr, DecidableEq

def ConfigError.message : ConfigError → String
  | .unreadable => "Failed to read config file"
  | .malformed => "Failed to parse config"
  | .invalid fault => "Invalid configuration: " ++ fault.message

/-- The public site. -/
def Site.standard : Site :=
  ⟨"https://www.rankedftw.com/", "https://www.rankedftw.com/static/", 2⟩

namespace Config

/-- The configuration that holds where nothing is configured. -/
def standard : Config := ⟨"./data", "info", .standard, .standard, .standard⟩

/-! ## Reading -/

open Toml (Value)

def site? (v : Value) : Option Site := do
  let fields ← v.fields? ["dynamic_url", "static_url", "default_version"]
  return {
    dynamicUrl := ← fields.optional "dynamic_url" Value.text? Site.standard.dynamicUrl
    staticUrl := ← fields.optional "static_url" Value.text? Site.standard.staticUrl
    defaultVersion := ← fields.optional "default_version" (fun v => v.int? >>= Numeral.toInt32?)
      Site.standard.defaultVersion }

def count? (v : Value) : Option Nat := v.int? >>= Numeral.toCount?

def fetchOptions? (v : Value) : Option FetchOptions := do
  let fields ← v.fields? ["timeout_seconds", "user_agent", "max_content_size"]
  let standard := FetchOptions.standard
  return {
    timeout := ← fields.optional "timeout_seconds" count? standard.timeout
    userAgent := ← fields.optional "user_agent" Value.text? standard.userAgent
    maxSize := ← fields.optional "max_content_size" count? standard.maxSize }

def edges? (v : Value) : Option (Edges Float) := do
  let fields ← v.fields? ["top", "right", "bottom", "left"]
  let edge (name : String) := fields.required name Value.double?
  return ⟨← edge "top", ← edge "right", ← edge "bottom", ← edge "left"⟩

def graphOptions? (v : Value) : Option (GraphOptions Float) := do
  let fields ← v.fields? ["edges", "x_margin", "min_height", "aspect", "hover_radius"]
  let standard : GraphOptions Float := .standard
  return {
    edges := ← fields.optional "edges" edges? standard.edges
    margin := ← fields.optional "x_margin" Value.double? standard.margin
    minHeight := ← fields.optional "min_height" Value.double? standard.minHeight
    aspect := ← fields.optional "aspect" Value.double? standard.aspect
    hoverRadius := ← fields.optional "hover_radius" Value.double? standard.hoverRadius }

def ofValue? (v : Value) : Option Config := do
  let fields ← v.fields? ["data_dir", "log_level", "site", "fetch", "graph"]
  return {
    dataDirectory := ← fields.optional "data_dir" Value.text? standard.dataDirectory
    logLevel := ← fields.optional "log_level" Value.text? standard.logLevel
    site := ← fields.optional "site" site? standard.site
    fetch := ← fields.optional "fetch" fetchOptions? standard.fetch
    graph := ← fields.optional "graph" graphOptions? standard.graph }

/-! ## Checking -/

def url? (setting value : String) : Except ConfigFault Url :=
  match Url.parse? value with
  | .ok url => .ok url
  | .error problem => .error (.badUrl setting value problem)

def dynamicUrl? (c : Config) : Except ConfigFault Url := url? "site.dynamic_url" c.site.dynamicUrl

/-- Refuse what cannot be used: addresses that are none, no time to fetch, graphs without a
    height. -/
def validate (c : Config) : Except ConfigFault Unit := do
  let _ ← c.dynamicUrl?
  let _ ← url? "site.static_url" c.site.staticUrl
  if c.fetch.timeout = 0 then .error .noTimeout
  else if c.graph.aspect ≤ 0 then .error .flatGraph
  else if c.graph.minHeight ≤ 0 then .error .lowGraph
  else .ok ()

def parse (text : String) : Except ConfigError Config :=
  match Toml.parse? text >>= ofValue? with
  | none => .error .malformed
  | some c =>
    match c.validate with
    | .ok () => .ok c
    | .error fault => .error (.invalid fault)

/-! ## Files -/

def inDirectory (directory file : String) : String :=
  if directory.isEmpty then file
  else if directory.toList.getLast? = some '/' then directory ++ file
  else directory ++ "/" ++ file

def catalogPath (c : Config) : String := inDirectory c.dataDirectory "enums.json"

def seasonsPath (c : Config) : String := inDirectory c.dataDirectory "seasons.json"

end Config

end LadderAtlas
