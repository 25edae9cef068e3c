import SyntheticRows.Text.Blank
/-!
Short lists of everyday things.
-/

namespace SyntheticRows.Lexicon

def currencyCodes : List String := Text.wordsOf "
AED AFN ALL AMD ANG AOA ARS AUD AWG AZN BAM BBD BDT BGN BHD BIF BMD BND BOB BRL BSD BWP BYR BZD
CAD CDF CHF CLP CNY COP CRC CUP CVE CZK DJF DKK DOP DZD EEK EGP ERN ETB EUR FJD FKP GBP GEL GHS
GIP GMD GNF GTQ GYD HKD HNL HRK HTG HUF IDR ILS INR INR IQD IRR ISK JMD JOD JPY KES KGS KHR KMF
KPW KRW KWD KYD KZT LAK LBP LKR LRD LTL LVL LYD MAD MDL MGA MKD MMK MNT MOP MRO MUR MVR MWK MXN
MYR MZN NGN NIO NOK NPR NZD OMR PAB PEN PGK PHP PKR PLN PYG QAR RON RSD RUB RWF SAR SBD SCR SDG
SEK SGD SHP SLL SOS SRD STD SVC SYP SZL THB TJS TMT TND TOP TRY TTD TWD TZS UAH UGX USD UYU UZS
VEF VND VUV WST XAF XAG XAU XBA XBB XBC XBD XCD XDR XFU XOF XPD XPF XPT XTS YER ZAR ZAR ZAR ZMK
ZWL"

def cardTypes : List String := [
    "Visa", "Mastercard", "American Express", "Discover", "JCB", "Diners Club"]

def weekdays : List String := [
    "Monday", "Tuesday", "Wednesday", "Thursday", "Friday", "Saturday", "Sunday"]

def months : List String := [
    "January", "February", "March", "April", "May", "June", "July", "August", "September",
    "October", "November", "December"]

def bloodTypes : List String := [
    "A", "B", "AB", "O"]

def bloodRhFactors : List String := [
    "+", "-"]

def bloodGroups : List String := [
    "A+", "A-", "B+", "B-", "AB+", "AB-", "O+", "O-"]

def intervals : List String := [
    "1 year 3 hours 20 minutes", "2 weeks ago", "5 days 4 hours", "3 months 2 days", "5 minutes",
    "1 hour", "1 day", "1 week", "1 month", "4 weeks"]

end SyntheticRows.Lexicon
