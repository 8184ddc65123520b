/-!
# Names of characters that begin with `M` to `R`

The names of characters and their aliases, in their order. Each is written as what it differs in from
the one in front of it (`SchemaPress.Text.CharacterName`).
-/

namespace SchemaPress.Text.CharacterName

/-- The names that begin with `M` to `R`. -/
def fromM : List String := [
  "aMACRONeGEbIC WANDhNETeHAJANI ABBREVIATION SIGNrLETTER AbBAbHAdCAbHAdDAbDAbHAdHAdEbGAbHAdHAcIb",
  "JAbHAdKAbHAdLAcMAcNAbNAcYAdObPAbHAdRAbRAdSAcTAbHAcTAbHAeUbVAiIGATURE SHRInSECTION MARKlIGN NUK",
  "TAqJONG TILE AUTUMNgBACKcMBOOgCHRYSANTHEMUMnEAST WINDiIGHT OF BAMBOOShCHARACTERSjIRCLESqFIVE O",
  "F BAMBOOShCHARACTERSjIRCLESoOUR OF BAMBOOShCHARACTERSjIRCLESpGREEN DRAGONmJOKERfNINE OF BAMBOO",
  "ShCHARACTERSjIRCLESoORTH WINDkONE OF BAMBOOShCHARACTERSjIRCLESnRCHIDgPLUMeRED DRAGONkSEVEN OF ",
  "BAMBOOShCHARACTERSjIRCLESpIX OF BAMBOOShCHARACTERSjIRCLESnOUTH WINDjPRINGfUMMERgTHREE OF BAMBO",
  "OShCHARACTERSjIRCLESpWO OF BAMBOOShCHARACTERSjIRCLESoWEST WINDiHITE DRAGONlINTERrKASAR ANGKAfE",
  "ND OF SECTIONoLETTER AbBAcCAcDAcGAcJAcKAcLAcMAcNAbGAcYAdPAcRAcSAcTAcVAcYAjPASSIMBANGkVOWEL SIG",
  "N EbIbObUsLAYALAM AU LENGTH MARKoDATE MARKiIGIT EIGHTfFIVEdOUReNINEeONEdSEVENeIXdTHREEeWOdZERO",
  "kFRACTION ONE EIGHTHgFIFTHeORTIETHiHALFeONE-HUNDRED-AND-SIXTIETHyQUARTERhSIXTEENTHjTENTHeWENTI",
  "ETHnTHREE EIGHTIETHSkQUARTERSiSIXTEENTHSkTWENTIETHSzLETTER AaAbIbRCHAIC IIjUcBAbHAdCAbHAbILLU ",
  "KbLaLaLdMbNaNcRRcYiDAbDAbHAdHAcOT REPHiEaEcGAbHAdHAcIaIcJAbHAdKAbHAdLAbLAbLAeMAcNAbGAcNAbNAdYA",
  "dOaOcPAbHAdRAbRAdSAbHAcSAdTAbHAcTAbHAcTAeUaUcVAbEDIC ANUSVARAnOCALIC LaLcRaRkYAjNUMBER ONE HUN",
  "DREDhTHOUSANDmTENkSIGN ANUSVARAhVAGRAHAiCANDRABINDUkIRCULAR VIRAMAoOMBINING ANUSVARA ABOVEyPAR",
  "AeVERTICAL BAR VIRAMAsIRAMAeSARGAmVOWEL SIGN AAbIbUcEaEcIaIcOaOcUaUcVOCALIC LaLcRaR+cE AND FEM",
  "ALE SIGNpSIGNeWITH STROKE AND MALE AND FEMALE SIGNySIGNsTESE CROSSlMMOTHfNa AND WOMAN HOLDING ",
  "HANDSxDANCINGhIN BUSINESS SUIT LEVITATINGyTUXEDOjWITH GUA PI MAOkTURBANmAT SIGNhDAIC AFFRICATI",
  "ON MARKqGEMINATION MARKpLETTER ABbDbGbHbINcKaSAdLbMbNbPbQbRbSaHbZcTaTcZcDUSHENNAiHALQAfINbTcKA",
  "DdUSHENNAoPUNCTUATIONlVOCALIZATION MARKwGOcICHAEAN ABBREVIATION MARK ABOVEfBELOWxLETTER AAYINe",
  "LEPHeYINeBETHdHETHfDALETHfHAMEDHhFEcGHIMELfIMELfHEaTHeJAYINeHAYINgKAPHdHAPHfLAMEDHgMEMdNUNdPEc",
  "QHOPHeOPHeRESHeSADHEdMEKHfHINdSHINfTAWcETHdHAMEDHhWAWdXAPHdOPHeYODHeZAYINeHAYINnNUMBER FIVEeON",
  "Ea HUNDREDlTENcWENTYnPUNCTUATION DOTa WITHIN DOTmUBLE DOT WITHIN DOTvFLEURONhLINE FILLERlSTARe",
  "TWO DOTSuSIGN UDpS SHOEgTELPIECE CLOCKoUAL WHEELCHAIRpP SYMBOL FOR LIGHTHOUSEwLE LEAFiRCHEN HE",
  "AD MARKjLETTER -AcAbBAcCAbHAdDAbZAdGAcHAcJAcKAbHAdLAcMAcNAbGAcYAdPAbHAdRAcSAbHAdTAbHAcSAbHAeWA",
  "cYAcZAbHAkMARK SHADjSIGN ANUSVARAiCANDRABINDUpUBJOINED LETTER AbBAcCAbHAdDAbZAdGAcHAcJAcKAbHAd",
  "LAcMAcNAbGAcYAdPAbHAdRAcSAbHAdTAbHAcSAbHAeWAcYAcZAbHAuVOWEL SIGN AAcEbIbObUrRIAGE SYMBOLmTIAL ",
  "ARTS UNIFORMsSARAM GONDI DIGIT EIGHTfFIVEdOUReNINEeONEdSEVENeIXdTHREEeWOdZEROkLETTER AaAbIbUcB",
  "AbHAdCAbHAdDAbDAbHAdHAdEbGAbHAdHAcIaIcJAbHAcNYAeKAbHAcSSAeLAbLAdMAcNAbGAcNAcYAdObPAbHAdRAcSAbH",
  "AcSAdTAbHAcRAcTAbHAeUaUcVAcYAjRA-KARAgEPHAfSIGN ANUSVARAiCANDRAgHALANTAhNUKTAfVISARGAmVIRAMAfO",
  "WEL SIGN AAbIbUcEbIaIcObUaUcVOCALIC R+fCULINE ORDINAL INDICATORyK WORK SYMBOLnU MARKhTE DRINKh",
  "HEMATICAL BOLD CAPITAL AaLPHAfBaETAeCaHIdDaELTAeIGAMMAhEaPSILONgTAdFbGaAMMAfHbIaOTAeJbKaAPPAfL",
  "aAMDAfMaUcNaUcOaMEGAdICRONhPaHIcIbSIdQbRaHOdSaIGMAfTaAUcHETAa SYMBOLmUaPSILONhVbWbXaIcYbZaETAm",
  "DIGIT EIGHTfFIVEdOUReNINEeONEdSEVENeIXdTHREEeWOdZEROkEPSILON SYMBOLoFRAKTUR CAPITAL AbBbCbDbEb",
  "FbGbHbIbJbKbLbMbNbObPbQbRbSbTbUbVbWbXbYbZjSMALL AbBbCbDbEbFbGbHbIbJbKbLbMbNbObPbQbRbSbTbUbVbWb",
  "XbYbZpITALIC CAPITAL AaLPHAfBaETAeCaHIdDaELTAfEaPSILONgTAdFbGaAMMAfHbIaOTAeJbKaAPPAfLaAMDAfMaU",
  "cNaUcOaMEGAdICRONhPaHIcIbSIdQbRaHOdSaIGMAfTaAUcHETAa SYMBOLmUaPSILONhVbWbXaIcYbZaETAmEPSILON S",
  "YMBOLoKAPPA SYMBOLmNABLAfPARTIAL DIFFERENTIALtHI SYMBOLjI SYMBOLjRHO SYMBOLkSMALL AaLPHAfBaETA",
  "eCaHIdDaELTAfEaPSILONgTAdFaINAL SIGMAlGaAMMAfHbIaOTAeJbKaAPPAfLaAMDAfMaUcNaUcOaMEGAdICRONhPaHI",
  "cIbSIdQbRaHOdSaIGMAfTaAUcHETAfUaPSILONhVbWbXaIcYbZaETAkTHETA SYMBOLtKAPPA SYMBOLmNABLAfPARTIAL",
  " DIFFERENTIALtHI SYMBOLjI SYMBOLjRHO SYMBOLkSCRIPT CAPITAL AbBbCbDbEbFbGbHbIbJbKbLbMbNbObPbQbR",
  "bSbTbUbVbWbXbYbZjSMALL AbBbCbDbEbFbGbHbIbJbKbLbMbNbObPbQbRbSbTbUbVbWbXbYbZnMALL AaLPHAfBaETAeC",
  "aHIdDaELTAeIGAMMAhEaPSILONgTAdFaINAL SIGMAlGaAMMAfHbIaOTAeJbKaAPPAfLaAMDAfMaUcNaUcOaMEGAdICRON",
  "hPaHIcIbSIdQbRaHOdSaIGMAfTaAUcHETAfUaPSILONhVbWbXaIcYbZaETAkTHETA SYMBOLrDOUBLE-STRUCK CAPITAL",
  " AbBbDbEbFbGbIbJbKbLbMbObSbTbUbVbWbXbYjDIGIT EIGHTfFIVEdOUReNINEeONEdSEVENeIXdTHREEeWOdZEROkSM",
  "ALL AbBbCbDbEbFbGbHbIbJbKbLbMbNbObPbQbRbSbTbUbVbWbXbYbZvFALLING DIAGONALpRAKTUR CAPITAL AbBbDb",
  "EbFbGbJbKbLbMbNbObPbQbSbTbUbVbWbXbYjSMALL AbBbCbDbEbFbGbHbIbJbKbLbMbNbObPbQbRbSbTbUbVbWbXbYbZp",
  "ITALIC CAPITAL AaLPHAfBaETAeCaHIdDaELTAfEaPSILONgTAdFbGaAMMAfHbIaOTAeJbKaAPPAfLaAMDAfMaUcNaUcO",
  "aMEGAdICRONhPaHIcIbSIdQbRaHOdSaIGMAfTaAUcHETAa SYMBOLmUaPSILONhVbWbXaIcYbZaETAmEPSILON SYMBOLo",
  "KAPPA SYMBOLmNABLAfPARTIAL DIFFERENTIALtHI SYMBOLjI SYMBOLjRHO SYMBOLkSMALL AaLPHAfBaETAeCaHId",
  "DaELTAeOTLESS IbJjEaPSILONgTAdFaINAL SIGMAlGaAMMAfIaOTAeJbKaAPPAfLaAMDAfMaUcNaUcOaMEGAdICRONhP",
  "aHIcIbSIdQbRaHOdSaIGMAfTaAUcHETAfUaPSILONhVbWbXaIcYbZaETAkTHETA SYMBOLtLEFT ANGLE BRACKETnDOUB",
  "LE ANGLE BRACKETuFLATTENED PARENTHESISvWHITE SQUARE BRACKEToTORTOISE SHELL BRACKET+hMONOSPACE ",
  "CAPITAL AbBbCbDbEbFbGbHbIbJbKbLbMbNbObPbQbRbSbTbUbVbWbXbYbZjDIGIT EIGHTfFIVEdOUReNINEeONEdSEVE",
  "NeIXdTHREEeWOdZEROkSMALL AbBbCbDbEbFbGbHbIbJbKbLbMbNbObPbQbRbSbTbUbVbWbXbYbZrRIGHT ANGLE BRACK",
  "ETnDOUBLE ANGLE BRACKETuFLATTENED PARENTHESISvWHITE SQUARE BRACKEToTORTOISE SHELL BRACKET+gSIN",
  "G DIAGONALpSANS-SERIF BOLD CAPITAL AaLPHAfBaETAeCaHIdDaELTAfEaPSILONgTAdFbGaAMMAfHbIaOTAeJbKaA",
  "PPAfLaAMDAfMaUcNaUcOaMEGAdICRONhPaHIcIbSIdQbRaHOdSaIGMAfTaAUcHETAa SYMBOLmUaPSILONhVbWbXaIcYbZ",
  "aETAmDIGIT EIGHTfFIVEdOUReNINEeONEdSEVENeIXdTHREEeWOdZEROkEPSILON SYMBOLoITALIC CAPITAL AaLPHA",
  "fBaETAeCaHIdDaELTAfEaPSILONgTAdFbGaAMMAfHbIaOTAeJbKaAPPAfLaAMDAfMaUcNaUcOaMEGAdICRONhPaHIcIbSI",
  "dQbRaHOdSaIGMAfTaAUcHETAa SYMBOLmUaPSILONhVbWbXaIcYbZaETAmEPSILON SYMBOLoKAPPA SYMBOLmNABLAfPA",
  "RTIAL DIFFERENTIALtHI SYMBOLjI SYMBOLjRHO SYMBOLkSMALL AaLPHAfBaETAeCaHIdDaELTAfEaPSILONgTAdFa",
  "INAL SIGMAlGaAMMAfHbIaOTAeJbKaAPPAfLaAMDAfMaUcNaUcOaMEGAdICRONhPaHIcIbSIdQbRaHOdSaIGMAfTaAUcHE",
  "TAfUaPSILONhVbWbXaIcYbZaETAkTHETA SYMBOLtKAPPA SYMBOLmNABLAfPARTIAL DIFFERENTIALtHI SYMBOLjI S",
  "YMBOLjRHO SYMBOLkSMALL AaLPHAfBaETAeCaHIdDaELTAfEaPSILONgTAdFaINAL SIGMAlGaAMMAfHbIaOTAeJbKaAP",
  "PAfLaAMDAfMaUcNaUcOaMEGAdICRONhPaHIcIbSIdQbRaHOdSaIGMAfTaAUcHETAfUaPSILONhVbWbXaIcYbZaETAkTHET",
  "A SYMBOLrCAPITAL AbBbCbDbEbFbGbHbIbJbKbLbMbNbObPbQbRbSbTbUbVbWbXbYbZjDIGIT EIGHTfFIVEdOUReNINE",
  "eONEdSEVENeIXdTHREEeWOdZEROkITALIC CAPITAL AbBbCbDbEbFbGbHbIbJbKbLbMbNbObPbQbRbSbTbUbVbWbXbYbZ",
  "jSMALL AbBbCbDbEbFbGbHbIbJbKbLbMbNbObPbQbRbSbTbUbVbWbXbYbZoSMALL AbBbCbDbEbFbGbHbIbJbKbLbMbNbO",
  "bPbQbRbSbTbUbVbWbXbYbZrCRIPT CAPITAL AbCbDbGbJbKbNbObPbQbSbTbUbVbWbXbYbZjSMALL AbBbCbDbFbHbIbJ",
  "bKbLbMbNbPbQbRbSbTbUbVbWbXbYbZzXIMIZEgYAN NUMERAL EIGHTaEENhLEVENgFIFTEENfVEdOURaTEENiNINEaTEE",
  "NiONEdSEVENaTEENiIXaTEENhTENcHIRTEENgREEeWELVEeOdZEROrEASURED ANGLEa OPENING LEFTmWITH OPEN AR",
  "M ENDING IN ARROW POINTING DOWN AND LEFTeRIGHToLEFT AND DOWNeUPlRIGHT AND DOWNeUPmUP AND LEFTe",
  "RIGHT++fBYcRIGHT ANGLE WITH DOT+aT ON BONEkCHANICAL ARMdLEGmDEFAIDRIN CAPITAL LETTER AaIbTIUeB",
  "bCbDbEbFbGbHaPcIbJbKaPcLbMbNaGbYcOaEcPbQbRbSbTbUbVbWbXbYaUcZpOMMAfDIGIT EIGHTfFIVEdOUReNINEeON",
  "Ea ALTERNATE FORMsSEVENeIXdTHREEa ALTERNATE FORMtWOa ALTERNATE FORMsZEROkEXCLAMATION OHoFULL S",
  "TOPjNUMBER EIGHTEENhLEVENgFIFTEENgOURTEENiNINETEENiSEVENTEENiIXTEENhTENcHIRTEENhWELVEnSMALL LE",
  "TTER AaIbTIUeBbCbDbEbFbGbHaPcIbJbKaPcLbMbNaGbYcOaEcPbQbRbSbTbUbVbWbXbYaUcZnYMBOL AIVAuIEVAL CO",
  "MMAfEXCLAMATION MARKqQUESTION MARKsUM BLACK CIRCLElOLD WHITE CIRCLErEIGHT POINTED BLACK STARsS",
  "POKED ASTERISKvFIVE SPOKED ASTERISKtLATTENED LEFT PARENTHESIS ORNAMENTzRIGHT PARENTHESIS ORNAM",
  "ENT+jOUR POINTED BLACK STARkPINWHEEL STAR+aGREEK CROSSlLEFT CURLY BRACKET ORNAMENTwPARENTHESIS",
  " ORNAMENTv-POINTING ANGLE BRACKET ORNAMENT+kMATHEMATICAL SPACEsRIGHT CURLY BRACKET ORNAMENTwPA",
  "RENTHESIS ORNAMENTv-POINTING ANGLE BRACKET ORNAMENT+lSALTIREgHADEeIX POINTED BLACK STARsSPOKED",
  " ASTERISKsMALL WHITE CIRCLEsTHREE POINTED BLACK STARkPINWHEEL STAR+bVERTICAL BARmWHITE CIRCLEg",
  "SQUARErETEI MAYEK AHANG KHUDAMlNJIdPUN IYEKjCHEIKHANcEIiDIGIT EIGHTfFIVEdOUReNINEeONEdSEVENeIX",
  "dTHREEeWOdZEROkLETTER ATIYAfBAbHAMeCHAbILeDDAbHAdHOUdILdEbGHOUdOKdHUKdIa LONSUMiJHAMdILdKHOUdO",
  "Ka LONSUMkLAIa LONSUMkMITa LONSUMkNAa LONSUMiGOUa LONSUMkNAcYAdObPAa LONSUMiHAMeRAIdSAMcHAcSAd",
  "THOUdILa LONSUMjTAbHAeUNcWAIdYANGkUM IYEKiSYLLABLE REPETITION MARKyVIRAMAfOWEL SIGN AAIbUcNAPd",
  "UcCHEINAPhIIbNAPeNUNGeONAPeSOUNAPgUNAPdUcVISARGAhYENAPqWORD REPETITION MARK+fLONcTING FACEkMOc",
  "NDE KIKAKUI COMBINING NUMBER HUNDRED THOUSANDSkSiMILLIONSiTEENSdN THOUSANDSkSdHOUSANDS+aDIGIT ",
  "EIGHTfFIVEdOUReNINEeONEdSEVENeIXdTHREEeWOjSYLLABLE M001 KIe2 KAe3 KUe4 WIe5 WAe6 WUe7 MINf8 MA",
  "Nf9 MUNg10 BIe1 BAe2 BUe3 Id4 Ad5 Ud6 DIe7 DAe8 DUe9 SIf20 SAe1 SUe2 TIe3 TAe4 TUe5 LIe6 LAe7 ",
  "LUe8 JIe9 JAf30 JUe1 YIe2 YAe3 YUe4 FIe5 FAe6 FUe7 NINf8 NANf9 NUNg40 HEEf1 HAe2 HOOf3 NGGAg4 ",
  "KPEEg5 WOe6 HUANg7 MBEEg8 KOe9 WVAg50 PUe1 PEe2 HENf3 HINf4 LOOf5 TEe6 GBAf7 NGONg8 NYANg9 MEN",
  "g60 NYONg1 WVIf2 MBAf3 JOe4 NDOf5 KEEf6 POe7 NDOOg8 PIe9 TOf70 GBOf1 GBOOg2 MBEf3 LEe4 KPUf5 F",
  "Ee6 KOOf7 VOe8 FEEf9 SOf80 YEe1 PEEf2 NGGUg3 HEEIg4 LEEf5 VEe6 LONG NGGEl7 HUNf8 FOe9 DEEg90 N",
  "GGIg1 TEEf2 KPAf3 GBEEg4 MONf5 KEe6 HEe7 BEe8 NYENg9 PAg100 Ed1 FANf2 POOf3 BOOf4 TOOf5 LONG M",
  "BOOl6 LONG NGGOOm7 GBEf8 KPEf9 YEEg10 LONG LEj1 GAe2 KPOOg3 JEe4 WOOf5 NGGEEh6 SEe7 NENf8 WEe9",
  " NDEg20 NGGOg1 YOe2 MBUf3 NDIf4 GBIf5 NDUf6 WEEf7 NGGUAh8 HOOUg9 NDAg30 HANf1 INe2 KPIf3 FOOf4",
  " NJOOg5 INe6 SOOf7 EIe8 BOe9 WVEg40 HOe1 YOOf2 LONG MBOk3 WEIf4 VOOf5 MBIf6 NGGEg7 Od8 GBUf9 N",
  "JEEh50 BEEf1 VUe2 NJAf3 LOe4 MUANg5 GIe6 NGGOOh7 JEEf8 KPOf9 NGGAAi60 JOOf1 LONG MBEk2 SEEf3 E",
  "Ee4 NYINg5 OOe6 GUEIg7 GUANg8 GUe9 NONg70 NYUNg1 RAe2 MBOOg3 VEEf4 MBOf5 LONG JOj6 HIe7 NGUANh",
  "8 ENe9 KUAg80 DOOf1 DOe2 VIe3 LONG NGGOl4 NGENg5 VAe6 HUe7 MBUUg8 MBEEg9 MUENh90 GEEf1 NDEEg2 ",
  "NJUf3 HONf4 WUIf5 ANe6 SIAf7 FUA+cORAH WITH NINE BRANCHESxS SYMBOLjRCURYeOITIC CURSIVE FRACTIO",
  "N EIGHT TWELFTHSnLEVEN TWELFTHSpFIVE TWELFTHSmOUR TWELFTHSnNINE TWELFTHSnONE HALFeTWELFTHlSEVE",
  "N TWELFTHSnIX TWELFTHSmTEN TWELFTHSlHREE TWELFTHSnWO TWELFTHSvLETTER AaRCHAIC SAkBAcDAcEbHHAdI",
  "bKAbHAdLAcMAcNAbEcObPAcQAcRAcSAbEcTAbEbOcWAcYAiOGOGRAM IMNdRMTmNUMBER EIGHTa HUNDREDa THOUSAND",
  "qTHOUSANDjY THOUSANDpFIFTYa THOUSANDmVEa HUNDREDa THOUSANDqTHOUSANDmORTYa THOUSANDmURa HUNDRED",
  "a THOUSANDqTHOUSANDnNINEa HUNDREDa THOUSANDqTHOUSANDjTY THOUSANDpONEa HUNDREDa THOUSANDqTHOUSA",
  "NDmSEVENa HUNDREDa THOUSANDqTHOUSANDjTYa THOUSANDpIXa HUNDREDa THOUSANDqTHOUSANDjTYa THOUSANDo",
  "TENa THOUSANDlHIRTYa THOUSANDnREEa HUNDREDa THOUSANDqTHOUSANDnWENTYa THOUSANDnOa HUNDREDa THOU",
  "SANDqTHOUSAND+bHIEROGLYPHIC LETTER AbBAa-2eDAcEbHHAdIbKAbHAdLAcMAcNAa-2dEa-2eObPAcQAcRAa-2eSAa",
  "-2dEcTAa-2dEa-2dOcWAcYAjSYMBOL VIDJa-2+gPERSONhSSAGE WAITINGnTRICAL BREVEfLONG OVER SHORTfTWO ",
  "SHORTSuPENTASEMEjSHORT OVER LONGpTETRASEMEiRISEMEgWO SHORTS JOINEDgOVER LONGzOeIAO LETTER AHbR",
  "CHAIC MAcNAbGAdZZAlBAbRIdDAbDAcLHAbYAeZAbHAcYIcZAeFAcGAbHAbHAeHAbHAdKAcLAbHAbYAdYAdMAbHAdNAaSA",
  "LIZATIONlGAbHAdHAcNAbHAdYAbHAePAbLAdQAbGAdREFORMED TONE-1b2b4b5b6b8fSHAmTEdSAbHAcSAcYIdTAbEbLH",
  "AbYAeONE-2b3b4b5b6b7b8fSAbEbHAcSAdTAdVAbFAdWAcXAcYI DZHAeKAcNNAdPAcTAbSAbHAdTAgZAbHAcSAbHAdZAb",
  "SAbYAdYAlSIGN ASPIRATIONkCONSONANT MODIFIER BARwREFORMED ASPIRATIONkVOICINGvTONE ABOVEfBELOWfR",
  "IGHTfTOP RIGHToVOWEL SIGN AaAbEaEcHHcIbNaGcUcEaAbIbNaGcRaRdIaAaNaGdEbGbIbNGcOaNGdUcNaGcOaERbYc",
  "GbObUcROUNDED ERaRlUaAaNaGdEIcIbNGcOGcUcVWcWaOcYaIbUIrCR DASH SYMBOLlON US SYMBOLnO SIGNfBEcPH",
  "ONEfSCOPEiDDLE DOTdTHIRD WHITE RIGHT POINTING INDEX+kLINE HORIZONTAL ELLIPSISzLITARY HELMETgME",
  "DALlKY WAYgL SIGNhNIBUSdDISCeMIZEfUS SIGNa IN TRIANGLElWITH COMMA ABOVElDOT BELOWjFALLING DOTS",
  "mRISING DOTSvTILDEg-OR-PLUS SIGNpYcRRORa BALLkMSPdOBILE PHONEa OFFdWITH RIGHTWARDS ARROW AT LE",
  "FT+oDELScRN PENTATHLONoI ABBREVIATION SIGNrDANDAeIGIT EIGHTfFIVEdOUReNINEeONEdSEVENeIXdTHREEeW",
  "OdZEROjOUBLE DANDAmLETTER AaAbIbUcBAbHAdCAbHAdDAbDAbHAdHAdEbGAbHAdHAcIaIcJAbHAdKAbHAdLAbLAdMAc",
  "NAbGAcNAcYAdObPAbHAdRAcSAbHAcSAdTAbHAcTAbHAeUaUcVAbOCALIC LaLcRaRkYAjSIGN ANUSVARAhRDHACANDRAl",
  "HUVAeVIRAMAeSARGAmVOWEL SIGN AAbIbUcEbIaIcObUaUcVOCALIC LaLcRaRwFIER BREVE WITH INVERTED BREVE",
  "zLETTER ACUTE ACCENTlLVEOLAR CLICKnPOSTROPHEkBEGIN HIGH TONEjLOW TONEnILABIAL CLICKoCAPITAL Aa",
  "EcBaARRED BiCbDbEbFbGbHa WITH STROKEnIbJbKbLbMbNbOaUcPbQbRaEVERSED EbNkTbUbVbWiENTRED LEFT HAL",
  "F RINGoRIGHT HALF RINGwHINESE TONE YANG PINGeQUcRUcSHANGjIN PINGeQUcRUcSHANGvIRCUMFLEX ACCENTq",
  "OLONeROSS ACCENTlYRILLIC ENcHARD SIGNjSOFT SIGNsDENTAL CLICKlOT HORIZONTAL BARoSLASHfVERTICAL ",
  "BARoUBLE APOSTROPHEkPRIMEkWN ARROWHEADjTACKjEND HIGH TONEjLOW TONElXTRA-HIGH DOTTED LEFT-STEM ",
  "TONE BARsTONE BARpLEFT-STEM TONE BARsTONE BARnLOW DOTTED LEFT-STEM TONE BARsTONE BARpLEFT-STEM",
  " TONE BARsTONE BARsGEORGIAN NARlLOTTAL STOPa WITH STROKExRAVE ACCENTmHALF TRIANGULAR COLONuIGH",
  " DOTTED LEFT-STEM TONE BARsTONE BARpLEFT-STEM TONE BARsTONE BARnLATERAL CLICKmEFT ARROWHEADjHA",
  "LF RINGjTACKiOW ACUTE ACCENTmCIRCUMFLEX ACCENTrDOTTED LEFT-STEM TONE BARsTONE BARnWN ARROWHEAD",
  "oGRAVE ACCENTmINVERTED EXCLAMATION MARKzLEFT ARROWaHEADk-STEM TONE BARsMACRONgRIGHT ARROWHEADn",
  "NGeTILDEeONE BARiUP ARROWHEADmVERTICAL LINEoER RIGHT CORNER ANGLEyMACRONfID DOTTED LEFT-STEM T",
  "ONE BARsTONE BARpLEFT-STEM TONE BARsTONE BARjDLE DOUBLE ACUTE ACCENTmGRAVE ACCENTtGRAVE ACCENT",
  "rNUS SIGNkOPEN SHELFkPLUS SIGNiRIMEfRAISED COLONfDOWN ARROWkEXCLAMATION MARKqINVERTED EXCLAMAT",
  "ION MARKzUP ARROWoETROFLEX CLICK WITH RETROFLEX HOOK+hVERSED COMMAfGLOTTAL STOPa WITH STROKE+g",
  "HOTIC HOOKkIGHT ARROWHEADjHALF RINGjTACKkSHELFdORT EQUALS SIGNqMALL AaEbINcLPHAfBa WITH HOOKkA",
  "RRED OhETAdOTTOM HALF OnCa WITH CURLkAPITAL AAcBbGa WITH HOOKlHbIa WITH STROKEmNVERTED RkLa WI",
  "TH BELTlNbOEcRbUbYiHIcLOSED OMEGAfREVERSED OPEN EwDa WITH HOOKa AND TAILnTAILkELTAdZH DIGRAPHl",
  "OTLESS J WITH STROKEa AND HOOK+dZ DIGRAPHa WITH CURLeRETROFLEX HOOK+eEaNGcSHcTHcZHdFaENG DIGRA",
  "PHmGa WITH HOOKkAMMAeREEK GAMMAfPHIjHa WITH HOOKeSTROKEmENGa WITH HOOKoI WITH STROKEmOTAeJa WI",
  "TH CROSSED-TAILtKbLa WITH BELTeINVERTED LAZY SpMIDDLE TILDEmPALATAL HOOKmRETROFLEX HOOKa AND B",
  "ELT+dEZHa WITH RETROFLEX HOOKxIGATURE OEkS DIGRAPHjZ DIGRAPHkMa WITH HOOKlN WITH LEFT HOOKjRET",
  "ROFLEX HOOKvOa WITH STROKEmPEN EbOgPaHIdQbRa WITH FISHHOOKiTAILkAMS HORNiEVERSED EbGLOTTAL STO",
  "PmOPEN EpSa WITH CURLeHOOKkCHWAdRIPT GhIDEWAYS UkTa WITH PALATAL HOOKmRETROFLEX HOOKuC DIGRAPH",
  " WITH CURLtESH DIGRAPHlHETAeOP HALF OjS DIGRAPHa WITH RETROFLEX HOOK+dURNED AaEbLPHAfHbIbMa WI",
  "TH LONG LEGpOPEN EgRa WITH HOOKeLONG LEGa AND RETROFLEX HOOK+iVbWbYa WITH BELTsUa BARdWITH LEF",
  "T HOOKpPSILONhVa WITH HOOKeRIGHT HOOKrWbXbYbZa WITH CURLeRETROFLEX HOOK+aTRESS AND HIGH TONEjL",
  "OW TONEsUPERSCRIPT HALF TRIANGULAR COLONvTRIANGULAR COLON+cTRIANGULAR COLONpURNED COMMAmUNASPI",
  "RATEDkP ARROWHEADjTACKgScVERTICAL LINEmOICINGhYANG DEPARTING TONE MARKxIN DEPARTING TONE MARK+",
  "kULO TWO SUMmNEY BAGdWITH WINGSl-MOUTH FACEnGOLIAN BIRGAa WITH DOUBLE ORNAMENTpORNAMENTtCOLONd",
  "MMAfDIGIT EIGHTfFIVEdOUReNINEeONEdSEVENeIXdTHREEeWOdZEROjOUBLE BIRGA WITH ORNAMENT+aELLIPSISiF",
  "OUR DOTSiREE VARIATION SELECTOR FOUReONEdTHREEeWO+aULL STOPjINVERTED BIRGAa WITH DOUBLE ORNAME",
  "NT+jLETTER AaLI GALI AaHbNUSVARA ONEmBALUDAgCAcDAaGALGAfMARUfDAdHALF UbYAhIaNVERTED UBADAMAqKA",
  "cNGAcNAdPAbHAdSSAdTAbHREE BALUDAlTAbHAeUBADAMAhVISARGA ONElZAbHAlNGdBAcCHAa WITH TWO DOTSpIdDA",
  "cEaEcFAcGAcHAAdIbJAcKAbHAdLAbHAdMAaNCHU ALI GALI BHAdCAbYAdDDHAdHAdGHAdJHAdLHAdNGAdSSAdTAbTAdZ",
  "AbHAmFAcIbKAcRAcZHAkNAcOaEcPAcQAcRAcSAbHAcIBE ANGdCHAdDAcEbFAcGAaAdHAaAdIaYcJAcKAcPAcRAAdSHAdT",
  "AbSAdUaEcZAbHAiTAbODO ALI GALI TAcZHAlNGdBAcCHAdDAbZAdEbGAaAdHAAdIbJAbIAdKAcLONG VOWEL SIGNpMA",
  "cNIAdOaEcPAcQAcTAbSAdUaEcWAcYAgSAdUaEcWAcYAcZAbHIcRAkMANCHU COMMAfFULL STOPqNIRUGUgROTATED BIR",
  "GAa WITH DOUBLE ORNAMENTpORNAMENT+bSIBE SYLLABLE BOUNDARY MARKER+cWIRL BIRGAa WITH DOUBLE ORNA",
  "MENTpORNAMENTzTODO SOFT HYPHENpRIPLE BIRGA WITH ORNAMENTzURNED SWIRL BIRGA WITH DOUBLE ORNAMEN",
  "T+nVOWEL SEPARATORwKEYa FACEiOGRAM FOR EARTHfYANGdINmRAILeSTABLE SYMBOLpOD BUBBLEiN CAKEeVIEWI",
  "NG CEREMONYtSQUEbITOgTHER CHRISTMASnOR BOATeSCOOTERiIZED WHEELCHAIRpWAYgUNT FUJIfAINa BICYCLIS",
  "TjCABLEWAYiRAILWAYnSEa FACEeTRAPhTHdVIE CAMERAkYAIeRO DANDAeIGIT EIGHTfFIVEdOUReNINEeONEdSEVEN",
  "eIXdTHREEeWOdZEROjOUBLE DANDAmLETTER AbBAcCHUdDAaIdEaAcHAIbOdKEAAEeHAIdOcLAaNdMAEMdIMdNGIcINdO",
  "aLbOcPAbHIdRIbOcSHIdTAbEKcHEAeWAcYOmUCH GREATER-THANmLESS-THANmLTANI LETTER AbBAbHAdCAbHAdDAbD",
  "AbDAcHAdHAdEbGAbHAdHAcIbJAbJAdKAbHAdLAcMAcNAbNAcYAdPAbHAdRAbHAcRAdSAcTAbHAcTAbHAeUbVAcYAjSECTI",
  "ON MARKqIMAPdPLE MUSICAL NOTESpICATION SIGNa IN DOUBLE CIRCLEnLEFT HALF CIRCLEqRIGHT HALF CIRC",
  "LErTRIANGLElWITH DOT ABOVEjUNDERBARsXlSETa MULTIPLICATIONoUNIONmSHROOMfIC FLAT SIGNjNATURAL SI",
  "GNmSHARP SIGNlAL KEYBOARDa WITH JACKStNOTEeSCOREeYMBOL ARPEGGIATO DOWNeUPnBEGIN BEAMePHRASEgSL",
  "UReTIEiRACEbKETfEATH MARKiVEbISa RESTlC CLEFfAESURAgIRCLE X NOTEHEADqLIMACUSfVISeUSTER NOTEHEA",
  "D BLACKfWHITEvODAcMBINING ACCENTa-STACCATOoUGMENTATION DOTqBENDeDOITcUBLE TONGUElWN BOWiFLAG-1",
  "b2b3b4b5eIPeHARMONICiLOUREfMARCATOa-STACCATOqRIPdSMEAReNAP PIZZICATOnPRECHGESANG STEMqTACCATIS",
  "SIMOgOgEMeTENUTOfREMOLO-1b2b3hIPLE TONGUEnUP BOWnMON TIMEkRESCENDOhOIXeUT TIMEiDA CAPOfL SEGNO",
  "hMPa ALLgSHED BARLINEnECRESCENDOjGREE SLASHlOUBLE BARLINEhFLATeSHARPlRUM CLEF-1b2lEIGHTH NOTEe",
  "RESTkND BEAMeOF STIMMEjPHRASEgSLUReTIEhF CLEFa OTTAVA ALTAeBASSAsERMATAa BELOWmINAL BARLINEkGE",
  "RED TREMOLO-1b2b3qVE-LINE STAFFoLAT DOWNeUPgORTEdUR-LINE STAFFkSTRING FRETBOARDuUSA BLACKfWHIT",
  "EkG CLEFa OTTAVA ALTAeBASSAsLISSANDO DOWNeUPlRACE NOTE NO SLASHiSLASHoEGORIAN C CLEFgF CLEFqHA",
  "LF NOTEePEDAL MARKkRESThUPTSTIMMElINVERTED TURNnKIEVAN C CLEFgEIGHTH NOTE STEM DOWNeUPsND OF P",
  "IECEmFINAL NOTEjLAT SIGNjHALF NOTEjQUARTER NOTE STEM DOWNeUPuRECITATIVE MARKpWHOLE NOTEqORONfL",
  "EFT REPEAT SIGNpONGAa IMPERFECTA RESTpPERFECTA RESTtMAXIMAfEZZOeINIMAa BLACKfRESTkOON NOTEHEAD",
  " BLACKfWHITEsULTI RESTfPLE MEASURE RESTvNATURAL DOWNeUPjEBENSTIMMEkOTEHEAD BLACKnULL NOTEHEADn",
  "ONE HUNDRED TWENTY-EIGHTH NOTEeREST+b-LINE STAFFnRNAMENT STROKE-1a0b1c2b3b4b5b6b7b8b9qTTAVA AL",
  "TAeBASSAmPARENTHESIS NOTEHEADtEDAL MARKeUP MARKlS SUBPUNCTISnIANOeLUS NOTEHEADmODATUSfRRECTUSa",
  " FLEXUSqQUARTER NOTEeRESTeTONE FLATeSHARPqINDICESIMA ALTAeBASSAsREPEAT DOTSfED FIGURE-1b2b3pVE",
  "RSE FINAL BARLINEuIGHT REPEAT SIGNpNFORZANDOlSCANDICUSa FLEXUSpEGNOdMIBREVIS BLACKfRESTeWHITEm",
  "MINIMA BLACKfRESTeWHITEpHARP DOWNeUPgORT BARLINEmINGLE BARLINEmX-LINE STAFFkSTRING FRETBOARDrT",
  "EENTH NOTEeRESTkY-FOURTH NOTEeRESTqORIdQUARE BbNOTEHEAD BLACKfWHITEuUBITOgTEMPUS IMPERFECTUM C",
  "UM PROLATIONE IMPERFECTAa DIMINUTION-1b2b3xPERFECTA+jPERFECTUM CUM PROLATIONE IMPERFECTAkPERFE",
  "CTAa DIMINUTION-1++aHIRTY-SECOND NOTEeRESTqREE-LINE STAFFpORCULUSa RESUPINUSrRaIANGLE NOTEHEAD",
  " DOWN BLACKfWHITEkLEFT BLACKfWHITEkRIGHT BLACKfWHITElUP BLACKfRIGHT BLACKfWHITElWHITEs-ROUND N",
  "OTEHEAD DOWN BLACKfWHITE+hURNa SLASHfUPgWO-LINE STAFFoVIRGAeOID NOTEHEADnWHOLE NOTEeRESTjITH F",
  "INGERNAILSqX NOTEHEADkZpVScWbYANMAR CONSONANT SIGN MEDIAL HAcRAcWAcYAiON MEDIAL LAcMAcNAnSHAN ",
  "MEDIAL WA+dDIGIT EIGHTfFIVEdOUReNINEeONEdSEVENeIXdTHREEeWOdZEROkLETTER AaITON RAhUcBAbHAdCAbHA",
  "dDAbDAbHAdHAdEaASTERN PWO KAREN GHWAeNNAdYWAvGAbHAcREAT SAiHAcIaIcJAbHAdKAbHAaMTI CAbHAdDDAbHA",
  "dHAdFAcGAcHAbHAdJAbHAdLLAdNAbYAdRAcSAcTTAbHAeXAcZAjLAbLAdMAbON BBAbEdEbJHAdNGAhNAbGAcNAbYAdYAd",
  "ObPAbHAdRAbUMAI PALAUNG FAqSAbGAW KAREN SHAnHAaN AbBAbHAdCAbHAdDAcFAcGAbHAdHAcJHAdKAbHAdNAbNAc",
  "YAdPHAdTHAdZAfWE PALAUNG CHAdSHApSAdTAaI LAING BAbHAdDAbDAbHAdHAdFAcGAbHAdJAbHAdLLAdNNAcYAmHAc",
  "TAbHAeUaUcVOCALIC LaLcRaRkWAbESTERN PWO KAREN PWAdTHAvYAiOGOGRAM KHAMTI HMcOAYdQNsMODIFIER LET",
  "TER KHAMTI REDUPLICATIONuSHAN REDUPLICATION+iSHAN DIGIT EIGHTfFIVEdOUReNINEeONEdSEVENeIXdTHREE",
  "eWOdZEROoIGN ANUSVARAhSATeDOT BELOWjKHAMTI TONE-1b3nLITTLE SECTIONoPAO KAREN TONEoRUMAI PALAUN",
  "G TONE-5uSECTIONgHAN COUNCIL EMPHATIC TONEnTONE-2b3oSAWdTONE-2b3b5b6lTAI LAING TONE-2b5qVIRAMA",
  "eSARGAhWESTERN PWO KAREN TONE-1b2b3b4b5+cYMBOL AFOREMENTIONEDnITON EXCLAMATIONlONEdTWOjCOMPLET",
  "EDjGENITIVEiLOCATIVEiSHAN EXCLAMATIONlONEpTAI LAING DIGIT EIGHTfFIVEdOUReNINEeONEdSEVENeIXdTHR",
  "EEeWOdZEROtONE MARK SGAW KAREN HATHIfKE PHO+bVOWEL SIGN AAbIaTON AaIiEa ABOVEhGEBA KAREN ImIaI",
  "cKAYAH EEcOEcUhMON IIcOfSGAW KAREN EUmHAN AAcEa ABOVEhFINAL YmTALL AAhUaUcVOCALIC LaLcRaRkWEST",
  "ERN PWO KAREN EUcUE+nN-ARY CIRCLED DOT OPERATORmPLUS OPERATORnTIMES OPERATORvOPRODUCTjINTERSEC",
  "TIONmLOGICAL ANDdORkPRODUCThSQUARE INTERSECTION OPERATORvUNION OPERATORuUMMATIONjTIMES OPERATO",
  "RoUNIONa OPERATOR WITH DOTdPLUSyWHITE VERTICAL BARxABATAEAN CRUCIFORM NUMBER FOURvLETTER ALEPH",
  "eYINeBETHeDALETHgFINAL ALEPHfBETHeHEcKAPHeLAMEDHgMEMdNUNdSHINeYODHkGIMELfHEaTHeKAPHeLAMEDHgMEM",
  "dNUNdPEcQOPHeRESHeSADHEdMEKHfHINeTAWcETHeWAWdYODHeZAYINmNUMBER FIVEdOUReONEa HUNDREDlTENcHREEe",
  "WENTYeOrLAdIL POLISHiRA SIGNiKbME BADGEiNDaINAGARI HEADSTROKEkLETTER AaAbIbUcBAbHAdCAbHAdDAbDA",
  "bHAdHAdEbGAbHAdHAcIaIcJAbHAdKAbHAdLAbLAdMAcNAbGAcNAcYAdObPAbHAdRAbRAdSAbHAcSAdTAbHAcTAbHAeUaUc",
  "VAbOCALIC RaRkYAjSIGN ANUSVARAhVAGRAHAiSIDDHAMhVIRAMAeSARGAmVOWEL SIGN AAbIbUcEbIaIcObPRISHTHA",
  "MATRA EpUaUcVOCALIC RaR+fRROW NO-BREAK SPACEtTIONAL DIGIT SHAPESmPARKlUSEATED FACEmZAR AMULETl",
  "BHbSPdECKTIEfGATED DOUBLE VERTICAL BAR DOUBLE RIGHT TURNSTILE+tIVE ACKNOWLEDGElCIRCLED DIGIT Z",
  "EROkLATIN CAPITAL LETTER AbBbCbDbEbFbGbHbIbJbKbLbMbNbObPbQbRbSbTbUbVbWbXbYbZwNUMBER EIGHTEENhL",
  "EVENgFIFTEENgOURTEENiNINETEENiSEVENTEENiIXTEENhTHIRTEENhWELVEdNTYnSQUAREgTRIANGLEqDIAGONAL CRO",
  "SSfDIAMONDhMIDDLE RIGHT TO LOWER CENTRE+lSQUARED ABcCROSS MARKkICcLATIN CAPITAL LETTER AbBbCbD",
  "bEbFbGbHbIbJbKbLbMbNbObPbQbRbSbTbUbVbWbXbYbZwPAcQUESTION MARKnSAcWCrITHER A SUBSET OF NOR EQUA",
  "L TOuPERSET OF NOR EQUAL TOzPPROXIMATELY NOR ACTUALLY EQUAL TO+jGREATER-THAN NOR EQUAL TOfIVAL",
  "ENT TOnLESS-THAN+aLESS-THAN NOR EQUAL TOfIVALENT TOnGREATER-THAN+gLbPTUNEa FORM TWOoRD FACEhSS",
  "USdT WITH EGGSkING DOLLSlUTERcRAL CHESS BISHOPa ROTATED NINETY DEGREESoTWO HUNDRED SEVENTY DEG",
  "REES+qEQUIHOPPERa ROTATED NINETY DEGREES+hKINGa ROTATED NINETY DEGREESoTWO HUNDRED SEVENTY DEG",
  "REES+nNIGHTa ROTATED FORTY-FIVE DEGREESsNINETY DEGREESoONE HUNDRED THIRTY-FIVE DEGREES+fTHREE ",
  "HUNDRED FIFTEEN DEGREES+cWO HUNDRED SEVENTY DEGREESpTWENTY-FIVE DEGREES+uPAWNa ROTATED NINETY ",
  "DEGREESoTWO HUNDRED SEVENTY DEGREES+oQUEENa ROTATED NINETY DEGREESoTWO HUNDRED SEVENTY DEGREES",
  "+pROOKa ROTATED NINETY DEGREESoTWO HUNDRED SEVENTY DEGREES+oTURNED BISHOPgKINGdNIGHTgPAWNeQUEE",
  "NfROOKrFACEkW LINEeMOON SYMBOLgWITH FACEoSHEQEL SIGNlTAI LUE DIGIT EIGHTfFIVEdOUReNINEeONEdSEV",
  "ENeIXdTHREEeWOdZEROkLETTER FINAL BbDbKbMbNaGcVhHIGH BAcDAcFAcHAcKAbVAdLAcMAcNAbGAdPAbHAdQAcSAb",
  "UAdTAbHAcSAdVAcXAbVAdYAhLOW BAcDAcFAcHAcKAbVAdLAcMAcNAbGAdPAbHAdQAcSAbUAdTAbHAcSAdVAcXAbVAdYAn",
  "SIGN LAEaVjTHAM DIGIT ONEnONE MARK-1b2lVOWEL SIGN AAaYcEbYcEbIIbYcOaAaYcYcUaEaYcUbYcVOWEL SHOR",
  "TENER+jA ABBREVIATION SIGNrCOMMAfDANDAeIGIT EIGHTfFIVEdOUReNINEeONEdSEVENeIXdTHREEeWOdZEROjOUB",
  "LE COMMAfDANDAmGAP FILLERkINSERTION SIGNoLETTER AaAbIbUcBAbHAdCAbHAdDAbDAbHAdHAdEbGAbHAdHAcIaI",
  "cJAbHAdKAbHAdLAbHAdMAbHAdNAbGAbHAdHAcNAcYAbHAeObPAbHAdRAbHAdSAbHAcSAdTAbHAcTAbHAeUaUcVEDIC ANU",
  "SVARAnOCALIC LaLcRaRkWAcYAjOMcPLACEHOLDER MARKqSANDHI MARKkIDDHIeGN ANUSVARAhVAGRAHAiCANDRABIN",
  "DUlFINAL ANUSVARAoJIHVAMULIYAlNUKTAfUPADHMANIYAlVIRAMAeSARGAmVOWEL SIGN AAbIbUcEbIaIcObUaUcVOC",
  "ALIC LaLcRaRxLINE LEFTeRIGHTkSPAPERhXT LINEePAGEiIGHT WITH STARSoNJAeKO COMBINING DOUBLE DOT A",
  "BOVEqLONG DESCENDING TONEpHIGH TONEjLOW TONEiRISING TONEqNASALIZATION MARKrSHORT HIGH TONEjLOW",
  " TONEiRISING TONEyMAfDANTAYALANjIGIT EIGHTfFIVEdOUReNINEeONEdSEVENeIXdTHREEeWOdZEROjOROME SIGN",
  "lEXCLAMATION MARKqHIGH TONE APOSTROPHEuLAJANYALANjETTER AbBAcCHAdDAaGBASINNAkEaEcFAcGBAdHAcIbJ",
  "AbONA CHAdJAcRAhKAcLAcMAcNaAa WOLOSOiYAa WOLOSOkOaOcPAcRAbRAdSAcTAcUbWAcYAiOW TONE APOSTROPHEt",
  "SYMBOL GBAKURUNENkOO DENNENqTAMAN SIGNnLbNBSPeO BICYCLEShREAK HEREkENTRYa SIGNkMOBILE PHONESnO",
  "NE UNDER EIGHTEEN SYMBOLzPEDESTRIANSkIRACYgSMOKING SYMBOLp-BREAK SPACEmMINAL DIGIT SHAPESqSMA ",
  "SIGNkN-BREAKING HYPHENpPOTABLE WATER SYMBOLvFORKINGiRaDIC MARK SIGNnMAL SUBGROUP OFa OR EQUAL ",
  "TO+bTH EAST AND SOUTH WEST ARROWtRROWa AND SOUTH EAST ARROWuCROSSING NORTH WEST ARROWqSOUTH EA",
  "ST ARROWzWITH HOOKpBLACK ARROWlDOUBLE ARROWmPOINTING BUDdLEAFeVINE LEAFsSANS-SERIF ARROWqTRIAN",
  "GLE-HEADED ARROWa TO BAR+cWHITE ARROWqINDIC FRACTION ONE EIGHTHgHALFeQUARTERhSIXTEENTHnTHREE Q",
  "UARTERSiSIXTEENTHSzPLACEHOLDER MARKqQUANTITY MARKkRTER MARKmRUPEE MARKqWEST AND SOUTH EAST ARR",
  "OWtRROWa AND NORTH EAST ARROWuCROSSING NORTH EAST ARROWzTO CORNERgLONG BARlWITH HOOKpBLACK ARR",
  "OWlDOUBLE ARROWmPOINTING BUDdLEAFeVINE LEAFsSANS-SERIF ARROWqTRIANGLE-HEADED ARROWa TO BAR+cWH",
  "ITE ARROWrEAST-POINTING AIRPLANEzSEcT A SUBSET OFhPERSET OFmLMOST EQUAL TOoN ELEMENT OFmSYMPTO",
  "TICALLY EQUAL TOxCHECK MARKkEQUAL TOfIVALENT TOnGREATER-THANmIDENTICAL TOmLESS-THANjNORMAL SUB",
  "GROUP OFa OR EQUAL TO+ePARALLEL TOlSIGNdQUARE IMAGE OF OR EQUAL TOuORIGINAL OF OR EQUAL TO+eTI",
  "LDEeRUEfCHED LEFT SEMICIRCLE WITH THREE DOTS+eOWER RIGHT-SHADOWED WHITE RIGHTWARDS ARROW+rRIGH",
  "T SEMICIRCLE WITH THREE DOTS+gUPPER RIGHT-SHADOWED WHITE RIGHTWARDS ARROW+wEa PADbGEfBOOKa WIT",
  "H DECORATIVE COVER+dULaLcMBER EIGHTEEN FULL STOPrLEVEN FULL STOPqFIFTEEN FULL STOPqOURTEEN FUL",
  "L STOPsNINETEEN FULL STOPsSEVENTEEN FULL STOPsIGNcXTEEN FULL STOPrTEN FULL STOPmHIRTEEN FULL S",
  "TOPrWELVE FULL STOPnNTY FULL STOPuERO SIGNjSHU CHARACTER-1B170b1b2b3b4b5b6b7b8b9bAbBbCbDbEbFc8",
  "0b1b2b3b4b5b6b7b8b9bAbBbCbDbEbFc90b1b2b3b4b5b6b7b8b9bAbBbCbDbEbFcA0b1b2b3b4b5b6b7b8b9bAbBbCbDb",
  "EbFcB0b1b2b3b4b5b6b7b8b9bAbBbCbDbEbFcC0b1b2b3b4b5b6b7b8b9bAbBbCbDbEbFcD0b1b2b3b4b5b6b7b8b9bAbB",
  "bCbDbEbFcE0b1b2b3b4b5b6b7b8b9bAbBbCbDbEbFcF0b1b2b3b4b5b6b7b8b9bAbBbCbDbEbFd200b1b2b3b4b5b6b7b8",
  "b9bAbBbCbDbEbFc10b1b2b3b4b5b6b7b8b9bAbBbCbDbEbFc20b1b2b3b4b5b6b7b8b9bAbBbCbDbEbFc30b1b2b3b4b5b",
  "6b7b8b9bAbBbCbDbEbFc40b1b2b3b4b5b6b7b8b9bAbBbCbDbEbFc50b1b2b3b4b5b6b7b8b9bAbBbCbDbEbFc60b1b2b3",
  "b4b5b6b7b8b9bAbBbCbDbEbFc70b1b2b3b4b5b6b7b8b9bAbBbCbDbEbFc80b1b2b3b4b5b6b7b8b9bAbBbCbDbEbFc90b",
  "1b2b3b4b5b6b7b8b9bAbBbCbDbEbFcA0b1b2b3b4b5b6b7b8b9bAbBbCbDbEbFcB0b1b2b3b4b5b6b7b8b9bAbBbCbDbEb",
  "FcC0b1b2b3b4b5b6b7b8b9bAbBbCbDbEbFcD0b1b2b3b4b5b6b7b8b9bAbBbCbDbEbFcE0b1b2b3b4b5b6b7b8b9bAbBbC",
  "bDbEbFcF0b1b2b3b4b5b6b7b8b9bAbBpITERATION MARKsT AND BOLTlYIAKENG PUACHUE HMONG CIRCLED CAkDIG",
  "IT EIGHTfFIVEdOUReNINEeONEdSEVENeIXdTHREEeWOdZEROkLETTER AaAcCAcDAbLAdEaEcFAcGAcHAaHdIbKAcLAcM",
  "AbLAdNAbCAcKAcPAbLAdQAcRAcTAbSAcXAdYAdOaOcPAbLAdQAcRAbRAdSAcTAbSAcXAdUbVAcWbXAbYAdYAcZAiOGOGRA",
  "M NYAJnSIGN FOR ANIMALgINVERTEBRATEmLOCATIONiPERSONgTHINGjXW XWjYLLABLE LENGTHENERtTONE-BbDbGb",
  "JbMbSbV+dOBJECT REPLACEMENT CHARACTER+aLIQUE ANGLE OPENING DOWNeUPqHYPHENmSERVER EYE SYMBOLsCR",
  " AMOUNT OF CHECKpBELT BUCKLEkOW TIEgRANCH BANK IDENTIFICATION+aCHAIReUSTOMER ACCOUNT NUMBERxDA",
  "SHdOUBLE BACKSLASHqFORKeHOOKeINVERTED FORKpTAGONAL SIGNlOPUSgDENdFFICE BUILDINGoGHAM FEATHER M",
  "ARKmLETTER AILMeBEITHfCEIRTeOLLeDAIReEABHADHfDHADHfMHANCHOLLlFEARNfGORTeIFINdODHADHhLUISeMUINe",
  "NGEADALgIONeONNcRcPEITHfRUISeSAILdTRAIFgTINNEfUATHdILLEANNhRjREVERSED FEATHER MARKvSPACE MARKo",
  "ONEKfHM SIGNhIL DRUMhK HAND SIGNlL CHIKI AHADeDIGIT EIGHTfFIVEdOUReNINEeONEdSEVENeIXdTHREEeWOd",
  "ZEROkGAAHLAA TTUDDAAGqLETTER AAJbKbMbWcGbLbNGcTcEDDcNbPbRRdIHbNYcRbScLAaAcEbIbObUcOBbHbTTcVcUC",
  "bDbNNcYjMU TTUDDAGi-GAAHLAA TTUDDAAGtPHAARKAAhUNCTUATION DOUBLE MUCAADnMUCAADsRELAAmD CHINESE ",
  "HOOK MARKjITERATION MARKwHUNGARIAN CAPITAL LETTER AaAbKbMBcNDdCLOSE EhEaBbCaHbScDbEbFbGaYcHbJb",
  "KbLaYcMaPcNaCbTa-SHAPED SIGNnYcPbRbSaZcTaYcVbZaSdIaIcNIKOLSBURG OEcUEnOaEEcOcRUDIMENTA OEcUEmS",
  "HORT ERiUaNKcSbUrNUMBER FIFTYdVEeONEa HUNDREDhTHOUSANDmTENkSMALL LETTER AaAbKbMBcNDdCLOSE EhEa",
  "BbCaHbScDbEbFbGaYcHbJbKbLaYcMaPcNaCbTa-SHAPED SIGNnYcPbRbSaZcTaYcVbZaSdIaIcNIKOLSBURG OEcUEnOa",
  "EEcOcRUDIMENTA OEcUEmSHORT ERiUaNKcSbUzITALIC LETTER AbBEcCHEdDEcEaFbKScLbMbNbRaScSaHbSdHEcIaI",
  "cKAbEbHEcUcNORTHERN TSEmObPEbHEdSHEcOUTHERN TSEmTEbHEdUaUcVEcYEcZEjNUMERAL FIFTYdVEeONEdTENsKE",
  "YdNORTH ARABIAN LETTER AINcLEFeBEHdDADbLdES-1b2b3eFEHdGEEMdHAINfHAHcEHdKAFcHAHeLAMdMEEMeNOONeQ",
  "AFdREHdSADdTAHcEHcHALcEHeWAWdYEHdZAHbINlNUMBER ONEdTENcWENTY+bPERMIC LETTER ANcBURdCHERYfDOIcZ",
  "HOIdITAfEaFcGAIdHAcIaAbEcKOKEeLEIdMENOEfNENOEfOaOcPEEIeREIdSHCHOOIfOOIeIIdTAIcSIUeUbVERcOOIeYA",
  "aTcERaIbUdRYcUcZATAdHOIpSIAN NUMBER HUNDREDhONEdTENcWENTYeOkSIGN AaURAMAZDAAa-2cHAmBAaGAdUUMIS",
  "HhCAcDAaHYAAUSHa-2kIbUcFAcGAbUcHAcIbJAbIcKAbUcLAcMAbIbUcNAbUcPAcRAbUcSAbHAcSAdTAbHAcUcUbVAbIcX",
  "AbSHAAYATHIYAmYAcZAhWORD DIVIDERqONAL COMPUTERrSOGDIAN FRACTION ONE HALFrLETTER ALEPHdTERNATE ",
  "AYINnYINeBETHeFINAL ALEPHfBETHeHEcNUNa WITH VERTICAL TAILwSADHEa WITH VERTICAL TAILyTAWa WITH ",
  "VERTICAL TAIL+cGIMELfHEaTHeKAPHeLAMEDHgMEMdNUNdPEcRESH-AYIN-DALETHqSADHEdMEKHfHINeTAWdWAWdYODH",
  "eZAYINlIGATURE AYIN-DALETHuNUMBER FIVEdOUReONEa HUNDREDlTENcHIRTYeREEeWENTYeOqUTH ARABIAN LETT",
  "ER ALEFdYNdBETHeDALETHfHADHEdLETHhFEcGHAYNeIMELfHEaTHeKAPHdHETHfLAMEDHgMEMdNUNdQOPHeRESHeSADHE",
  "dMEKHeTcHINeTAWcETHdHAWcETHfWAWdYODHeZAYNlNUMBER FIFTYfONEhERIC INDICATOR+fTURKIC LETTER ORKHO",
  "N AaBbDbEBbDbGbKbLbNbRbSbTbYcGbLbNbQbRbSaHcTbYcBASHeECbLTcMbNCbGbTbYcPbSHcZcIaCbQcOaEaKcPbQbTj",
  "YENISEI AaBbDbEaBbGbKbNaGcTbYcGbLbNGcQbRbSHcTbYcEaCbNCbTbYcSHcZcIaQcOEaKcQyUYGHUR COMBINING DO",
  "T ABOVEfBELOWjTWO DOTS ABOVEfBELOWyLETTER ALEPHfBETHeFINAL HETHkGIMEL-HETHkKAPHeLAMEDHfESHeMEM",
  "dNUNdPEcRESHeSADHEdMEKHfHINeTAWdWAWdYODHeZAYINmPUNCTUATION BARdFOUR DOTSjTWO BARSeDOTS+cER ADU",
  "LTfMANdWOMANjIVEeM SYMBOLiN WITH EXCLAMATION MARK WITH LEFT RIGHT ARROW ABOVE+yCOMING AUTOMOBI",
  "LEkBUSdFIRE ENGINElPOLICE CARkTAXIlE BUTTON MOUSEmDOT LEADERgOVER TWO DOTS PUNCTUATION+e-PIECE",
  " SWIMSUITqIONePEN BOOKcXdCENTRE ASTERISKiBLACK STARkCROSSfTEARDROP-SPOKED ASTERISK+fFILE FOLDE",
  "RkOLDERgHANDS SIGNkLOCKeMAILBOX WITH LOWERED FLAGmRAISED FLAGySUBSETePERSETj-CIRCUIT-OUTPUT H-",
  "TYPE SYMBOLnL-TYPE SYMBOL+cOUTLINED RIGHTWARDS ARROW+bRATING SYSTEM COMMANDwHIUCHUShPOSITIONiT",
  "ICAL DISCa ICONnON KEYjR WITH DOT INSIDEqANGE BOOKeHEARThUTANhIGINAL OFiYA AI LENGTH MARKnU LE",
  "NGTH MARKoDIGIT EIGHTfFIVEdOUReNINEeONEdSEVENeIXdTHREEeWOdZEROkFRACTION ONE EIGHTHgHALFeQUARTE",
  "RhSIXTEENTHnTHREE QUARTERSiSIXTEENTHSzISSHARgLETTER AaAbIbUcBAbHAdCAbHAdDAbDAbHAdHAdEbGAbHAdHA",
  "cIaIcJAbHAdKAbHAdLAbLAdMAcNAbGAcNAcYAdObPAbHAdRAbHAcRAdSAbHAcSAdTAbHAcTAbHAeUaUcVAbOCALIC LaLc",
  "RaRkWAcYAbYAkSIGN ANUSVARAhVAGRAHAiCANDRABINDUlNUKTAfOVERLINEiVIRAMAeSARGAmVOWEL SIGN AAbIbUcE",
  "bIaIcObUaUcVOCALIC LaLcRaRzNATE LEFT PARENTHESISqRIGHT PARENTHESISwTHODOX CROSSnSAGE CAPITAL L",
  "ETTER AaHbIaNdBRAdCHAdDHAdEaHCHAdKAcPAcTAbSAeINdGHAdHAbYAdIbKAbHAcYAdLAcMAcNAcOaINdPAcSAbHAdTA",
  "bSAbHAeUbWAcZAbHAsSMALL LETTER AaHbIaNdBRAdCHAdDHAdEaHCHAdKAcPAcTAbSAeINdGHAdHAbYAdIbKAbHAcYAd",
  "LAcMAcNAcOaINdPAcSAbHAdTAbSAbHAeUbWAcZAbHAuCbMANYA DIGIT EIGHTfFIVEdOUReNINEeONEdSEVENeIXdTHRE",
  "EeWOdZEROkLETTER AaAbLEFeBAcCAYNeDEELdHAdEaEcFAcGAcHAcIbJAcKAAFdHAdLAANeMIINeNUUNeOaOcQAAFeRAc",
  "SAbHIINfTAcUbWAWdXAcYAqTTERcOMAN SIYAQ ALTERNATE NUMBER EIGHTfFIVEdOURa HUNDREDmNINEeSEVENeIXa",
  " HUNDREDlTENa THOUSANDlHREEeWOa THOUSAND+dFRACTION ONE HALFeSIXTHsMARRATANiNUMBER EIGHTa HUNDR",
  "EDhTHOUSANDjYa THOUSANDpFIFTYa THOUSANDmVEa HUNDREDhTHOUSANDmORTYa THOUSANDmURa HUNDREDhTHOUSA",
  "NDnNINEa HUNDREDhTHOUSANDjTYa THOUSANDpONEa HUNDREDhTHOUSANDmSEVENa HUNDREDhTHOUSANDjTYa THOUS",
  "ANDpIXa HUNDREDhTHOUSANDjTYa THOUSANDoTENa THOUSANDlHIRTYa THOUSANDnREEa HUNDREDhTHOUSANDnWENT",
  "Ya THOUSANDnOa HUNDREDhTHOUSAND+gUNCE SIGNiTBOX TRAYiLINED BLACK STARkGREEK CROSSlLATIN CROSSl",
  "WHITE STARsVERHEATED FACElLAPaPING BLACK SQUARESnWHITE AND BLACK SQUARESrSQUARESuINEhWLcXbYSTE",
  "RgPACKAGEfDaDING CHARACTERpGEa FACING UPjWITH CIRCLED TEXTlURLkRbScODAeHAWH HMONG CLAN SIGN FA",
  "JdHAMbWJeKHABdOOcWMdLAUJdISdMUASePHABeTHOJdSABcHEEJeWBeVAJcWJdXYOOJfYAJcEEGnONSONANT AUcCAUcHA",
  "UeHAUcLAUdNAUeLAUdMAUdNAUcCHAUeKAUdLAUdTHAUdSAUfPLHAUfQHAUeRAUdVAUdXAUdYAUnDIGIT EIGHTfFIVEdOU",
  "ReNINEeONEdSEVENeIXdTHREEeWOdZEROkMARK CIM HOMdKEScHAVeSObUAMeTAUMdUBmNUMBER HUNDRED MILLIONSj",
  "SiMILLIONSiTEN BILLIONSiTHOUSANDSkSdRILLIONSqSIGN AVcCIM CHEEMeUAM TSHOOJlHAIS LUS NTOG NTOGsN",
  "RES TOSiPUB DAWBiTSOV ROGhXWVa CHWVnHLIcNUBeIB YAMgLOSdMEEJ SUABeTSEEBjUSdNQIGdTUJeTAUcHIRD-ST",
  "AGE HLIoXHEEJ CEEVlVOS FEEMeLUBdNRUAeSEEVeTHIABdOMdSHAB CEEBoXAUSdIABdYEEM FAIBeNTXIVfRHOdTOVh",
  "OOeZWJ THAJnVOWEL KAABbVcBbIBbVcUBbVcVbWBbVdEBbEBbVcVcIABbVcBbVcOBbOBbVcVcUABbVcBbVcWBbVuLLASd",
  "M BRANCHgDOWN HANDjTREEeUP HANDiS UP TOGETHERnYRENE LEFT-POINTING FLEURONtTTER ALEPHeYINeBETHe",
  "DALETHgFINAL NUNjGIMELfHEaTHeKAPHeLAMEDHgMEMdNUNdPEcQOPHeRESHeSADHEdMEKHfHINeTAWcETHeWAWdYODHe",
  "ZAYINmNUMBER FIVEdOUReONEdTENcHREEeWENTYeOkRIGHT-POINTING FLEURON+eNCAKESfDA FACEiPERCLIPhRACH",
  "UTEfGRAPH SEPARATORkOScUS MARKmLLEL TOcWITH HORIZONTAL STROKErTILDE OPERATORzENTHESIZED DIGIT ",
  "EIGHTfFIVEdOUReNINEeONEdSEVENeIXdTHREEeWOjHANGUL CHIEUCHa AiIEUCa AbUhHIEUHa AhIEUNGa AhKHIEUK",
  "Ha AiIYEOKa AiMIEUMa AhNIEUNa AhPHIEUPHa AiIEUPa AhRIEULa AhSIOSa AgTHIEUTHa AiIKEUTa ApIDEOGR",
  "APH ALLIANCEiCALLdONGRATULATIONoEARTHeIGHTeNTERPRISEkFESTIVALhINANCIALhREcVEdOUReHAVEeLABORfME",
  "TALeOONeNAMEdINEeONEdREACHdPRESENThSOURCEfTeSELFcVENeIXcOCIETYgPECIALgTOCKdUDYeUNbPERVISEjTENc",
  "HREEeWOdWATEReOODoKOREAN CHARACTER O HUdJEONwLATIN CAPITAL LETTER AbBbCbDbEbFbGbHbIbJbKbLbMbNb",
  "ObPbQbRbSbTbUbVbWbXbYbZqSMALL LETTER AbBbCbDbEbFbGbHbIbJbKbLbMbNbObPbQbRbSbTbUbVbWbXbYbZuNUMBE",
  "R EIGHTEENhLEVENgFIFTEENgOURTEENiNINETEENiSEVENTEENiIXTEENhTENcHIRTEENhWELVEdNTYyROTdT ALTERNA",
  "TION MARKrIAL DIFFERENTIALmLINE BACKWARDiDOWNeFORWARDhUPiLY-RECYCLED PAPER SYMBOL+bNERSHIP SIG",
  "NmY POPPERkSSED SYMBOLiNGER SHIPkIVE-PULL-DOWN-OUTPUT SYMBOLsUP-OUTPUT SYMBOLzPORT CONTROLoU C",
  "IN HAU GLOTTAL STOPa FINALfVARIANTuLETTER AbBAcCAbHAdDAcEbFAbINAL KbLbMbNaGcPbTbWbYhGAcHAcIaAc",
  "KAbHAdLAcMAcNAbGAdObPAbHAdRAcSAcTAbHAdUaAcVAcZAiOW-FALLING TONEa FINALfLONGa FINAL+bMID-LEVEL ",
  "TONEa FINALfLONG FINALzRISING TONEa FINALfLONGa FINALwSANDHI GLOTTAL STOPa FINALsTONEa FINALfL",
  "ONGa FINAL+gW PRINTSjDFbIcEACE SYMBOLiHbOCKeNUTSeRcDESTRIANiN OVER STAMPED ENVELOPEwCILdGUINeS",
  "IVE FACEjTAGRAMhOPLE HUGGINGmR MILLE SIGNkSIGNeTEN THOUSAND SIGNsCENT SIGNjFORMING ARTSmMANENT",
  " PAPER SIGNrPENDICULARa WITH SrSEVERING FACEmON BOWING DEEPLYnCLIMBINGiDOING CARTWHEELpFROWNIN",
  "GiIN LOTUS POSITIONoSTEAMY ROOMoRAISING BOTH HANDS IN CELEBRATION+hWITH BALLdLOND HAIRkCROWNfF",
  "OLDED HANDSmHEADSCARFjPOUTING FACEsAL COMPUTERnPECTIVEjSETA SIGNiO SIGNhTRI DISHjHAGS-PA DOUBL",
  "E HEAD MARKqLETTER AaLTERNATE YAlSPIRATED FAmBAcCAaNDRABINDUkHAdDAbDAcZAdEaEcFAcGAbGAdHAcIbJAc",
  "KAbHAdLAcMAcNAbGAcNAcYAdObPAbHAdQAcRAcSAbHAcMALL AhTAbHAcSAbHAdTAbHAeUbVOICED HAeLESS SHAnWAcX",
  "AcYAcZAbHAkMARK DOUBLE SHADlSHADjSINGLE HEAD MARKpUBJOINED LETTER RAcWAcYArPERFIXED LETTER RA+",
  "aISTOS DISC SIGN ARROWfBEEaHIVEgOOMERANGhWcULLS LEGjCAPTIVEfRPENTRY PLANEnTcHILDeLUBdOLUMNeMBa",
  "INING OBLIQUE STROKEyDOLIUMeVEeEAGLEfFLUTEfGAUNTLEThRATERgHELMETfIDEdORNeLIDbLYeMANACLESgTTOCK",
  "hOX BACKhPAPYRUSgEDESTRIANjLANE TREEiUMED HEADlRAMcOSETTEhSAWcHIELDdPdLINGeMALL AXEiTRAINERiTA",
  "TTOOED HEADmIARAeUNNYfVINEeWAVY BANDiOMANwILIPPINE DOUBLE PUNCTUATIONsSINGLE PUNCTUATION+bOENI",
  "CIAN LETTER AINcLFdBETdDELTeGAMLeHEaTdKAFdLAMDeMEMdNUNdPEcQOFdROSHeSADEdEMKdHINeTAUcETdWAUdYOD",
  "dZAIkNUMBER ONEa HUNDREDlTENcHREEeWENTYeOkWORD SEPARATORwLUSfICKaUP TRUCKkEbGa FACEeNOSEgLCROW",
  " SIGNjE OF POOiLcNATAdCHED FINGERSkING HANDkE DECORATIONlAPPLEgWHEEL STARlSCESdTOLeTCHFORKa WI",
  "TH TEE TOPvLACARDdE OF INTEREST SIGNnWORSHIPnNCK CONSTANTa OVER TWO PIyYGROUND SLIDEmING CARD ",
  "ACE OF CLUBSfDIAMONDSiHEARTSgSPADESnBACKdLACK JOKERlEIGHT OF CLUBSfDIAMONDSiHEARTSgSPADESpFIVE",
  " OF CLUBSfDIAMONDSiHEARTSgSPADESnOOLcUR OF CLUBSfDIAMONDSiHEARTSgSPADESoJACK OF CLUBSfDIAMONDS",
  "iHEARTSgSPADESoKING OF CLUBSfDIAMONDSiHEARTSgSPADESnNIGHT OF CLUBSfDIAMONDSiHEARTSgSPADESqNINE",
  " OF CLUBSfDIAMONDSiHEARTSgSPADESoQUEEN OF CLUBSfDIAMONDSiHEARTSgSPADESpRED JOKERjSEVEN OF CLUB",
  "SfDIAMONDSiHEARTSgSPADESoIX OF CLUBSfDIAMONDSiHEARTSgSPADESnTEN OF CLUBSfDIAMONDSiHEARTSgSPADE",
  "SmHREE OF CLUBSfDIAMONDSiHEARTSgSPADESoRUMP-1a0b1b2b3b4b5b6b7b8b9c2a0b1c3b4b5b6b7b8b9gWO OF CL",
  "UBSfDIAMONDSiHEARTSgSPADESnWHITE JOKERwDbUaNGEReS SIGNa ABOVE EQUALS SIGNrIN LEFT HALF CIRCLEq",
  "RIGHT HALF CIRCLErTRIANGLElWITH BLACK TRIANGLEoCIRCUMFLEX ACCENT ABOVExDOT BELOWjSMALL CIRCLE ",
  "ABOVErUBSCRIPT TWOnTILDE ABOVEfBELOWw-MINUS SIGNmTOa FORM FIVEdOUReTHREEeWOnMbOCKET CALCULATOR",
  "pLICE CARaS REVOLVING LIGHTuOFFICERmODLEeP DIRECTIONAL FORMATTINGkISOLATEuCORNfRTABLE STEREOnS",
  "EIDONfITION INDICATORpTAL HORNeMARKa FACEmBOXfT OF FOODiABLE WATER SYMBOLqTOdTED PLANTkUCHcLTR",
  "Y LEGiND SIGNhRING LIQUIDlTING CAT FACEiFACEkWER ON SYMBOLh-OFF SYMBOLnSLEEP SYMBOLlYMBOLlRAYE",
  "R BEADSkECEDESa ABOVE ALMOST EQUAL TOpEQUALS SIGNlNOT ALMOST EQUAL TOpEQUAL TOmSINGLE-LINE EQU",
  "ALS SIGNlNOT EQUAL TO+eBUT NOT EQUIVALENT TOvOR EQUAL TOfIVALENT TOqUNDER RELATIONuGNANT MANdP",
  "ERSONgWOMANlSCRIPTION TAKEnENTATION FORM FOR VERTICAL COLONdMMAfEM DASHgN DASHgXCLAMATION MARK",
  "qHORIZONTAL ELLIPSIStIDEOGRAPHIC COMMAfFULL STOPvLEFT ANGLE BRACKETnBLACK LENTICULAR BRACKETyC",
  "ORNER BRACKETnURLY BRACKETnDOUBLE ANGLE BRACKETuPARENTHESISlSQUARE BRACKEToTORTOISE SHELL BRAC",
  "KETwWHITE CORNER BRACKEToLENTICULAR BRACKET+cOW LINEiQUESTION MARKnRIGHT ANGLE BRACKETnBLACK L",
  "ENTICULAR BRACKETyCORNER BRACKETnURLY BRACKETnDOUBLE ANGLE BRACKETuPARENTHESISlSQUARE BRACKETo",
  "TORTOISE SHELL BRACKETwWHITE CORNER BRACKEToLENTICULAR BRACKETeKCET+eSEMICOLONjTWO DOT LEADERo",
  "WAVY LOW LINE+pTZELeVIOUS PAGElIMEcNCEaSSeT SCREEN SYMBOLoERa ICONjVACY MESSAGEkTE USE ONEdTWO",
  "e-1b2lOBING CANEjHIBITED SIGNmJECTIVEhPERTY LINEjORTIONaAL TOmSERPINAjSALTER PAHLAVI FOUR DOTS",
  " WITH CROSSfDOTsLETTER ALEPHfBETHeDALETHgGIMELfHEaTHeKAPHeLAMEDHgMEM-QOPHiNUNdPEcSADHEdMEKHfHI",
  "NeTAWdWAW-AYIN-RESHnYODHeZAYINmNUMBER FOUReONEa HUNDREDlTENcHREEeWENTYeOkSECTION MARKmTURNED S",
  "ECTION MARK+iU1b2bBLIC ADDRESS LOUDSPEAKERyNCTUATION SPACElS ELEVATUS MARKtRPLE HEARTjSEdSHPIN",
  "fT LITTER IN ITS PLACE SYMBOL+eQUADRANT LOWER LEFTeRIGHTlUPPER LEFTa AND LOWER LEFT AND LOWER ",
  "RIGHTuRIGHTlUPPER RIGHT AND LOWER LEFTeRIGHT+kRIGHTa AND LOWER LEFTa AND LOWER RIGHT+uUPLE INT",
  "EGRAL OPERATORrPRIMEmRTER NOTEjTERNION INTEGRAL OPERATOR+aESTION EXCLAMATION MARKqMARKfED EQUA",
  "L TOrINCUNXgOTATION MARKoRABBITa FACEjCCOONeING CARdMOTORCYCLEpDICAL SYMBOL BOTTOMrOa BUTTONhA",
  "CTIVE SIGNoILWAY CARdTRACKkNaBOWeSED BACK OF HANDmCOMMAfDOTaTED INTERPOLATION MARKER+bFISTeHAN",
  "Da WITH FINGERS SPLAYEDpPART BETWEEN MIDDLE AND RING FINGERS+uINTERPOLATION MARKERuMC SIGNgD S",
  "IGNgR SIGNhSQUARElMbTaIOdZOReECEIPTeORD SEPARATORnREATIONAL VEHICLErYCLED PAPER SYMBOLpING SYM",
  "BOL FOR GENERIC MATERIALSrTYPE-1 PLASTICSk2 PLASTICSk3 PLASTICSk4 PLASTICSk5 PLASTICSk6 PLASTI",
  "CSk7 PLASTICS+iD APPLEfGIFT ENVELOPEpFERENCE MARKmGIONAL INDICATOR SYMBOL LETTER AbBbCbDbEbFbG",
  "bHbIbJbKbLbMbNbObPbQbRbSbTbUbVbWbXbYbZ+eSTERED SIGNnJANG CONSONANT SIGN HbNaGcRqLETTER AbBAcCA",
  "cDAcGAcHAcJAcKAcLAcMAbBAdNAbDAcGAbGAdYAbJAePAcRAcSAcTAcWAcYAjSECTION MARKmVIRAMAfOWEL SIGN AIb",
  "UcEaAbUcIbObUrLIEVED FACElMINDER RIBBONnPLACEMENT CHARACTERtSPONSEfTRICTED LEFT ENTRY-1b2sOOMg",
  "TURN LEFTeRIGHTfSYMBOLlVERSE CHECKER BOARDnINDEXfLIGHT FOUR POINTED PINWHEEL STAR+eNE FEEDjSOL",
  "IDUSa OPERATORiPRECEDING SUBSETqWITH HORIZONTAL STROKE+eTILDE OPERATOR ABOVE LEFTWARDS ARROWpR",
  "IGHTWARDS ARROW+mD ANGLEa WITH UNDERBARtCOMMAfDOUBLE PRIMEa QUOTATION MARKuSTROKE NOT SIGNwEMP",
  "TY SETjFORKED PARAGRAPHOSsHAND WITH MIDDLE FINGER EXTENDED+gNOT SIGNiPILCROW SIGNlRIMEfQUESTIO",
  "N MARKnRAISED HAND WITH FINGERS SPLAYED+fIGHT ANGLEkOTATED FLORAL HEART BULLET+bSANS-SERIF CAP",
  "ITAL LtEMICOLONjTHUMBS DOWN SIGNjUP SIGNnILDEa EQUALSlRIPLE PRIMEmVICTORY HANDsOLVING HEARTSpH",
  "INOCEROSjIaAL SIGNhBBONa ARROW DOWN LEFTeRIGHTkLEFT DOWNeUPhRIGHT DOWNeUPiUP LEFTeRIGHTtCE BAL",
  "LeCRACKERkFLEdGHT AND LOWER ONE EIGHTH BLOCKwUPPER ONE EIGHTH BLOCKyGER BUBBLEjLEa BRACKETa WI",
  "TH DOTqDOTTED SUBSTITUTION MARKER+aSUBSTITUTION MARKERtVARIANT WITH SQUAREtWITH ARCdDOWNWARDS ",
  "ZIGZAG ARROW+gRC GREATER-THAN BRACKETwROW WITH CIRCLED PLUSmSMALL CIRCLExBLACK LENTICULAR BRAC",
  "KETsTORTOISE SHELL BRACKET+cCEILINGgORNER BRACKETnURLY BRACKETa LOWER HOOKkMIDDLE PIECEmUPPER ",
  "HOOKyDOTTED SUBSTITUTION BRACKETzUBLE ANGLE BRACKETmRROW WITH ROUNDED HEADxPARENTHESISlQUOTATI",
  "ON MARKoWIGGLY FENCEtFISH TAILhVE EIGHTHS BLOCKrLOORfHALF BLACK CIRCLEgSTARiOCKfFOLDERgMEDIUM ",
  "SHADEmRUNNING MANoND TELEPHONE RECEIVERxLOW PARAPHRASE BRACKETwNORMAL FACTOR SEMIDIRECT PRODUC",
  "T+gONE EIGHTH BLOCKmQUARTER BLOCKqPEN SQUARED DOTpUTER JOINkPARENTHESISa EXTENSIONjLOWER HOOKk",
  "UPPER HOOKwRAISED OMISSION BRACKETxS-SHAPED BAG DELIMITERvEMIDIRECT PRODUCTqVEN EIGHTHS BLOCKs",
  "IDEWAYS U BRACKETqNGLE QUOTATION MARKuPEAKERa WITH ONE SOUND WAVEoTHREE SOUND WAVES+bECH BUBBL",
  "EmQUARE BRACKETa EXTENSIONjLOWER CORNERmUPPER CORNERmWITH DOUBLE STROKEnQUILLfSTROKEgTICK IN B",
  "OTTOM CORNERnTOP CORNERsUNDERBAR+bUBSTITUTION BRACKETuTACKdHIRD WHITE RIGHT POINTING INDEX+eOU",
  "GHT BUBBLEmREE EIGHTHS BLOCKnQUARTERS BLOCKtORTOISE SHELL BRACKETvRANSPOSITION BRACKETtIANGLEa",
  " ABOVE LEFT TRIANGLEwULAR ONE QUARTER BLOCK+cVERTICAL BAR WITH QUILLnOX LINErWHITE CORNER BRAC",
  "KETnURLY BRACKETnLENTICULAR BRACKETsPARENTHESISlSQUARE BRACKEToTORTOISE SHELL BRACKET+bIGGLY F",
  "ENCEn-FACING ARMENIAN ETERNITY SIGNwFISTeSVASTI SIGNa WITH DOTS+cHANDED INTERLACED PENTAGRAM+b",
  "POINTING ANGLE BRACKETnCURVED ANGLE BRACKETuDOUBLE ANGLE QUOTATION MARK+bMAGNIFYING GLASSzSHAD",
  "ED WHITE RIGHTWARDS ARROW+cIDE ARC CLOCKWISE ARROWyTO-LEFT EMBEDDINGjISOLATEhMARKeOVERRIDErHAN",
  "D INTERIOR PRODUCTvWARDS ARROWa ABOVE ALMOST EQUAL TOpREVERSE ALMOST EQUAL TOpTILDE OPERATORwS",
  "HORT LEFTWARDS ARROWvTILDE OPERATORtND UPPER AND LOWER ONE EIGHTH BLOCK+kFROM BARa TO BLACK DI",
  "AMONDzOVER LEFTWARDS ARROWuTHROUGH GREATER-THANmSUPERSETiXiO BARcLACK DIAMONDqWITH CORNER DOWN",
  "WARDSqDOTTED STEMjUBLE VERTICAL STROKEwEQUILATERAL ARROWHEADvHOOKeLARGE TRIANGLE ARROWHEADxOOP",
  "eMEDIUM TRIANGLE ARROWHEADzNOTCHED TAILmPLUS BELOWkSMALL EQUILATERAL ARROWHEADvTRIANGLE ARROWH",
  "EADxTROKEgTAILa WITH DOUBLE VERTICAL STROKEwVERTICAL STROKEyIP DOWNWARDSjUPWARDSlVERTICAL STRO",
  "KEv-TAILkBACK-TILTED SHADOWED WHITE ARROW+fLACK ARROWfCIRCLED WHITE ARROWyOTTOM SHADED WHITE A",
  "RROWzCOMPRESSED ARROWqDASHED ARROWlOUBLE ARROWa FROM BARiWITH STROKEgVERTICAL STROKEv-TAILkDAS",
  "H ARROWrFINGER-POST ARROWqRONT-TILTED SHADOWED WHITE ARROW+hHANDcRPOON OVER LEFTWARDS HARPOONw",
  "WITH BARB DOWN ABOVE LEFTWARDS HARPOON WITH BARB DOWN+mBELOW LONG DASHpFROM BARiTO BARhWARDSjU",
  "P ABOVE LEFTWARDS HARPOON WITH BARB UP+dONG DASHjRIGHTWARDS HARPOON WITH BARB DOWN+nFROM BARiT",
  "O BARhWARDSyEAVY ARROWfCOMPRESSED ARROWwLEFT-SHADED WHITE ARROWxOPEN-HEADED ARROWrPAIRED ARROW",
  "SnQUADRUPLE ARROWpRIGHT-SHADED WHITE ARROWxOCKETgSANS-SERIF ARROWpQUARED ARROWkIGGLE ARROWoTOP",
  " SHADED WHITE ARROWvRIANGLE ARROWHEADk-HEADED ARROWa OVER LEFTWARDS TRIANGLE-HEADED ARROW+kTO ",
  "BARgWITH BOLD SHAFTkDOUBLE HORIZONTAL STROKErVERTICAL STROKEwHEAVY SHAFTlLONG TIP DOWNWARDSjUP",
  "WARDSqMEDIUM SHAFTmNARROW SHAFTmVERY HEAVY SHAFT+bDASHED ARROWmPAIRED ARROWS+aPLE ARROWfDASH A",
  "RROWqWO HEADED ARROWn-HEADED ARROW FROM BARiWITH DOUBLE VERTICAL STROKEwTAILa WITH DOUBLE VERT",
  "ICAL STROKEwVERTICAL STROKEyRIANGLE ARROWHEADStVERTICAL STROKE+aTRIPLE DASH ARROW+cWAVE ARROWj",
  "HITE ARROWa FROM WALLjWITHIN TRIANGLE ARROWHEAD+uNGa ABOVEfBUOYeEQUAL TOiIN EQUAL TOlOPERATORi",
  "POINTgED PLANETjING BELLkSING DIAGONAL CROSSING FALLING DIAGONALqSOUTH EAST ARROW+oLEbIbMbOcOA",
  "STED SWEET POTATOsBOT FACEiCKaETeLL OF PAPERjED-UP NEWSPAPERoR COASTERhSKATEiING ON THE FLOOR ",
  "LAUGHING+bMAN AS SIGNhCENTURIAL SIGNoDENARIUS SIGNmIMIDIA SEXTULA SIGNtUPONDIUS SIGNoNUMERAL E",
  "IGHTeLEVENgFIFTYa EARLY FORMkTHOUSANDmVEa HUNDREDhTHOUSANDmOUReNINEeONEa HUNDREDa THOUSANDqTHO",
  "USANDa C DqREVERSED ONE HUNDREDuSEVENeIXa LATE FORMnTENa THOUSANDlHREEeWELVEeOlQUINARIUS SIGNo",
  "SEMUNCIA SIGNlSTERTIUS SIGNnXTANS SIGNiULA SIGNlILIQUA SIGNmUNCIA SIGNoOSTERfSEaTTEfTATED CAPI",
  "TAL QjFLORAL HEART BULLETtHEAVY BLACK HEART BULLETyLIGHT FOUR POINTED BLACK CUSP+dWHITE FOUR P",
  "OINTED CUSP+dUND PUSHPINhTARGEThED SYMBOL FOR CAIdFUcLUcSHOUcUANGXIiXItWBOATgSbUBLE SIGNiGBY F",
  "OOTBALLmLE-DELAYEDkMI DIGIT EIGHTfFIVEdOUReNINEeONEdSEVENeIXdTHREEeWOjFRACTION ONE HALFeQUARTE",
  "RhTHIRDjTWO THIRDStNUMBER EIGHT HUNDREDiYgFIFTYdVE HUNDREDlORTYdUR HUNDREDmNINE HUNDREDiTYgONE",
  " HUNDREDlSEVEN HUNDREDiTYgIX HUNDREDiTYfTENcHIRTYeREE HUNDREDmWENTYeO HUNDREDvNIC ARLAUG SYMBO",
  "LnBELGTHOR SYMBOLpCROSS PUNCTUATIONrLETTER AC AdESCdLGIZ EOLHXkNSUZ AhBERKANAN BEORC BJARKAN B",
  "yCaALCdEALCdNcWEORTHhDaAGAZ DAEG DlOTTED-LbNbPiEaARcHWAZ EH EjNGcTHdFEHU FEOH FE FnRANKS CASKE",
  "T ACbESCeEHcIScOSqGaARcEBO GYFU GjRdHAEGL HfGLAZ HiICELANDIC-YRlNGaWAZfORcSAZ IS ISS ImWAZ EOH",
  "iJERAN JhKaAUN KcAfLAUKAZ LAGU LOGR LrONG-BRANCH-AR AEfHAGALL HiMADR MgOSS OfYRoMANNAZ MAN MmN",
  "AUDIZ NYD NAUD NrOaEbNbObPEN-PfS OdTHALAN ETHEL OpPERTHO PEORTH PpQbRAIDO RAD REID RqSHaORT-TW",
  "IG-AR AeBJARKAN BjHAGALL HiMADR MgNAUD NgOSS OfSOL SfTYR TfYRmIGEL LONG-BRANCH-SOL SwOWILO ShT",
  "ANeTHURISAZ THURS THORNtIWAZ TIR TYR TpURUZ UR UjVbWaUNJO WYNN WmXbYaRcZiMULTIPLE PUNCTUATIONu",
  "SINGLE PUNCTUATIONsTVIMADUR SYMBOLsNERcING SHIRT WITH SASHvPEE SIGNiSSIAN ASTROLOGICAL SYMBOL ",
  "BINOVILEiNOVILEgQUINTILEiSENTAGONiTREDECILEjVIGINTILE"]

end SchemaPress.Text.CharacterName
