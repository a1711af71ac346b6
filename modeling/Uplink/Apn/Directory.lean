/-
The directory of access points, keyed by mobile network.

A network is known by its id: three digits of country and two or three of
network. Which of the two lengths a country uses is not in the number, so
a look-up that finds no record of the whole id falls back on the first
five digits. The order of the table matters there: the first record with
these five digits is the answer.
-/
import Uplink.Text.Numeral

namespace Uplink.Apn

/-- How to reach packet data on one mobile network. -/
structure Record where
  /-- country and network, five or six digits -/
  networkId : String
  apn : String
  username : String
  password : String
  operatorName : String
deriving DecidableEq, Repr

/-- The digits of the shortest network id. -/
def shortIdLength : Nat := 5

/-- The digits of the longest network id. -/
def longIdLength : Nat := 6

/-- The known networks. -/
def directory : List Record := [
  -- Pakistan
  ⟨"41001", "jazzconnect.mobilinkworld.com", "", "", "Jazz Pakistan"⟩,
  ⟨"41003", "ufone.internet", "", "", "Ufone Pakistan"⟩,
  ⟨"41004", "zonginternet", "", "", "Zong Pakistan"⟩,
  ⟨"41006", "internet", "", "", "Telenor Pakistan"⟩,
  ⟨"41007", "jazzconnect.mobilinkworld.com", "", "", "Jazz (Warid) Pakistan"⟩,
  -- India
  ⟨"40410", "airtelgprs.com", "", "", "Airtel India"⟩,
  ⟨"40445", "airtelgprs.com", "", "", "Airtel Karnataka"⟩,
  ⟨"40420", "www", "", "", "Vi India"⟩,
  ⟨"405857", "jionet", "", "", "Jio India"⟩,
  ⟨"40553", "bsnlnet", "", "", "BSNL India"⟩,
  -- United Arab Emirates / Saudi Arabia
  ⟨"42402", "etisalat.ae", "", "", "Etisalat UAE"⟩,
  ⟨"42403", "du", "", "", "du UAE"⟩,
  ⟨"42001", "jawalnet.com.sa", "", "", "STC Saudi Arabia"⟩,
  ⟨"42003", "web2", "", "", "Mobily Saudi Arabia"⟩,
  ⟨"42004", "zain", "", "", "Zain Saudi Arabia"⟩,
  -- Bangladesh
  ⟨"47001", "gpinternet", "", "", "Grameenphone"⟩,
  ⟨"47002", "internet", "", "", "Robi Bangladesh"⟩,
  ⟨"47003", "blweb", "", "", "Banglalink"⟩,
  -- United Kingdom
  ⟨"23410", "mobile.o2.co.uk", "o2web", "password", "O2 UK"⟩,
  ⟨"23415", "wap.vodafone.co.uk", "wap", "wap", "Vodafone UK"⟩,
  ⟨"23420", "three.co.uk", "", "", "Three UK"⟩,
  ⟨"23430", "everywhere", "eesecure", "secure", "EE UK"⟩,
  ⟨"23433", "everywhere", "eesecure", "secure", "EE (Orange) UK"⟩,
  -- Germany
  ⟨"26201", "internet.telekom", "telekom", "tm", "Telekom Germany"⟩,
  ⟨"26202", "web.vodafone.de", "", "", "Vodafone Germany"⟩,
  ⟨"26203", "internet", "", "", "O2 Germany"⟩,
  -- France / Spain / Italy / Netherlands
  ⟨"20801", "orange", "orange", "orange", "Orange France"⟩,
  ⟨"20810", "sl2sfr", "", "", "SFR France"⟩,
  ⟨"20820", "mmsbouygtel.com", "", "", "Bouygues France"⟩,
  ⟨"21401", "airtelwap.es", "wap@wap", "wap125", "Vodafone Spain"⟩,
  ⟨"21407", "movistar.es", "movistar", "movistar", "Movistar Spain"⟩,
  ⟨"22201", "ibox.tim.it", "", "", "TIM Italy"⟩,
  ⟨"22210", "mobile.vodafone.it", "", "", "Vodafone Italy"⟩,
  ⟨"20404", "live.vodafone.com", "", "", "Vodafone Netherlands"⟩,
  ⟨"20408", "portalmmm.nl", "", "", "KPN Netherlands"⟩,
  -- Turkey / Egypt / Nigeria / Kenya / South Africa
  ⟨"28601", "internet", "", "", "Turkcell"⟩,
  ⟨"60201", "mobinilweb", "", "", "Orange Egypt"⟩,
  ⟨"60202", "internet.vodafone.net", "internet", "internet",
    "Vodafone Egypt"⟩,
  ⟨"62120", "internet.ng.airtel.com", "internet", "internet",
    "Airtel Nigeria"⟩,
  ⟨"62130", "web.gprs.mtnnigeria.net", "web", "web", "MTN Nigeria"⟩,
  ⟨"63902", "safaricom", "saf", "data", "Safaricom Kenya"⟩,
  ⟨"65501", "internet", "", "", "Vodacom South Africa"⟩,
  ⟨"65510", "myMTN", "", "", "MTN South Africa"⟩,
  -- North America
  ⟨"310260", "fast.t-mobile.com", "", "", "T-Mobile US"⟩,
  ⟨"310410", "broadband", "", "", "AT&T US"⟩,
  ⟨"311480", "vzwinternet", "", "", "Verizon US"⟩,
  ⟨"302220", "isp.telus.com", "", "", "Telus Canada"⟩,
  ⟨"302720", "internet.com", "wapuser1", "wap", "Rogers Canada"⟩,
  ⟨"334020", "internet.itelcel.com", "webgprs", "webgprs2002",
    "Telcel Mexico"⟩,
  -- Asia Pacific
  ⟨"50501", "telstra.internet", "", "", "Telstra Australia"⟩,
  ⟨"50502", "yesinternet", "", "", "Optus Australia"⟩,
  ⟨"45400", "csl", "", "", "CSL Hong Kong"⟩,
  ⟨"52001", "internet", "", "", "AIS Thailand"⟩,
  ⟨"51010", "internet", "wap", "wap123", "Telkomsel Indonesia"⟩,
  ⟨"51502", "internet.globe.com.ph", "", "", "Globe Philippines"⟩,
  ⟨"50212", "celcom3g", "", "", "Maxis Malaysia"⟩,
  ⟨"45201", "m-wap", "mms", "mms", "MobiFone Vietnam"⟩,
  -- IoT roaming SIMs
  ⟨"90128", "iot.1nce.net", "", "", "1NCE IoT"⟩,
  ⟨"20601", "hologram", "", "", "Hologram (Proximus)"⟩]

namespace Record

/-- The first digits of the record's network, those that a look-up falls
back on. -/
def shortId (r : Record) : List Char :=
  r.networkId.toList.take shortIdLength

end Record

/-- The text can be a network id: five digits or more, and nothing else. -/
def isNetworkId (text : List Char) : Bool :=
  shortIdLength ≤ text.length && text.all Text.isDigit

/-- The record of a network: the one of exactly this id, or else the
first that agrees in five digits. -/
def lookUpNetwork? (id : String) : Option Record :=
  if isNetworkId id.toList then
    (directory.find? fun r => r.networkId == id) <|>
      directory.find? fun r => r.shortId == id.toList.take shortIdLength
  else none

/-- The record of a subscriber's home network: by the first six digits of
the identity, or else by the first five. -/
def lookUpSubscriber? (identity : String) : Option Record :=
  let digits := identity.toList
  if isNetworkId digits then
    let short := lookUpNetwork? (String.ofList (digits.take shortIdLength))
    if digits.length < longIdLength then short
    else lookUpNetwork? (String.ofList (digits.take longIdLength)) <|> short
  else none

end Uplink.Apn
